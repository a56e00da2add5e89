import HitCounter.Proofs.Counting.Separation
import HitCounter.Proofs.Hit.Decode
import HitCounter.Proofs.Text.Ascii
import HitCounter.Proofs.Visitor.Bot

/-!
# The code for bots and the stored user agent

The user agent of a request is read twice: its sender is told from a header that is visible
throughout, and the hit keeps the text of any bytes.

- **Two readings** (`Visitor.Legible`, `Visitor.classify_legible`, `Visitor.classify_illegible`): of
  a visible header, or of none, both see one text. Any other counts as no user agent when the sender
  is told.
- **Agreement** (`Counter.recorded_fits_iff`): the code of a counted hit is the one that its user
  agent calls for exactly if the header can be read, up to two coincidences.
-/

namespace HitCounter

namespace Visitor

open Http (Headers)

variable {headers : Headers}

/-! ## Two readings -/

/-- The user agent, if the request has one, is visible throughout. -/
def Legible (headers : Headers) : Prop :=
  ∀ value, headers.get? "user-agent" = some value → value.all Http.isVisible = true

/-- A user agent that is visible, or missing, is stored as the classifier sees it. -/
theorem classify_legible (quiet : classify headers ≠ .prefetch) (legible : Legible headers) :
    classify headers = classifyUserAgent (Counter.userAgent headers) := by
  have hread : (headers.visible? "user-agent").getD "" = Counter.userAgent headers := by
    unfold Headers.visible? Counter.userAgent
    cases hvalue : headers.get? "user-agent" with
    | none => rfl
    | some value =>
      have hvisible := legible value hvalue
      simp only [hvisible, ↓reduceIte, Option.getD_some, Http.decodeLossy_visible hvisible]
  rw [← hread]
  unfold classify at quiet ⊢
  split
  · simp_all
  · rfl

/-- A user agent that is not visible is none to the classifier. -/
theorem classify_illegible (quiet : classify headers ≠ .prefetch) (illegible : ¬ Legible headers) :
    classify headers = .bot .noUserAgent := by
  have hread : headers.visible? "user-agent" = none := by
    unfold Headers.visible?
    cases hvalue : headers.get? "user-agent" with
    | none => rfl
    | some value =>
      have hhidden : ¬ value.all Http.isVisible = true := fun hvisible =>
        illegible fun other hother => by
          rw [hvalue, Option.some.injEq] at hother
          exact hother ▸ hvisible
      exact if_neg hhidden
  unfold classify at quiet ⊢
  split
  · simp_all
  · rw [hread]
    rfl

/-! ## The code for no user agent -/

/-- The class of no user agent is that of blank texts. -/
theorem classifyUserAgent_eq_noUserAgent_iff {userAgent : String} :
    classifyUserAgent userAgent = .bot .noUserAgent ↔ Text.trim userAgent.toList = [] := by
  unfold classifyUserAgent
  grind

theorem code_eq_iff {kind : BotKind} : kind.code = 165 ↔ kind = .noUserAgent := by
  cases kind <;> decide

end Visitor

/-! ## Agreement -/

/-- The code of the hit is the one that its user agent calls for: that of the kind of automatic
client, or, when nothing speaks for one, what the page says. -/
def Hit.CodeFits (h : Hit) (p : Payload) : Prop :=
  (∀ kind, Visitor.classifyUserAgent h.userAgent = .bot kind → h.bot = kind.code) ∧
    (Visitor.classifyUserAgent h.userAgent = .noBot → h.bot = p.bot.getD 0)

/-- The page gives the code for no user agent, and nothing speaks against it. -/
def Hit.CodeGiven (h : Hit) (p : Payload) : Prop :=
  Visitor.classifyUserAgent h.userAgent = .noBot ∧ p.bot = some 165

namespace Hit

variable {h : Hit} {p : Payload}

/-- The code for no user agent fits a hit if its user agent is blank, or if the page gives it. -/
theorem codeFits_iff_of_bot_eq (hbot : h.bot = 165) :
    h.CodeFits p ↔ Text.trim h.userAgent.toList = [] ∨ h.CodeGiven p := by
  rw [← Visitor.classifyUserAgent_eq_noUserAgent_iff, CodeFits, CodeGiven, hbot]
  cases hclass : Visitor.classifyUserAgent h.userAgent with
  | noBot =>
    cases hgiven : p.bot with
    | none => simp
    | some code => simpa using eq_comm
  | prefetch => exact absurd hclass (Visitor.classifyUserAgent_ne_prefetch _)
  | bot kind =>
    simp [eq_comm (a := (165 : Int)), Visitor.code_eq_iff]

/-- A hit whose code fits has the code for no user agent in no other case. -/
theorem CodeFits.bot_eq_iff (fits : h.CodeFits p) :
    h.bot = 165 ↔ Text.trim h.userAgent.toList = [] ∨ h.CodeGiven p := by
  refine ⟨fun hbot => (codeFits_iff_of_bot_eq hbot).mp fits, ?_⟩
  rintro (hblank | ⟨hclass, hgiven⟩)
  · exact fits.1 _ (Visitor.classifyUserAgent_eq_noUserAgent_iff.mpr hblank)
  · rw [fits.2 hclass, hgiven]
    rfl

end Hit

namespace Counter

variable {known : Visitor.Register} {m : Moments} {site : Site} {r : CountRequest} {h : Hit}

/-- The code of a counted hit is that of the class of its headers. -/
theorem Assembles.bot_eq {c : Counter known} {found : Visitor.BotClass} {p : Payload}
    (ha : Assembles found (c.begin m.begun site r) r p h) :
    (∀ kind, found = .bot kind → h.bot = kind.code) ∧ (found = .noBot → h.bot = p.bot.getD 0) := by
  rw [ha.eq]
  constructor
  · rintro kind rfl
    exact bot_mark_bot kind _
  · rintro rfl
    rw [mark_noBot, Hit.merge, bot_begin]

/-- **The code and the stored user agent.** The code of a counted hit fits the user agent that is
stored with it if the header was visible or missing. If not, the code is that for no user agent,
which fits only a blank text, or a text that speaks for no bot on a page that gives this very code.
So the code for no user agent is found with a user agent in two cases: when the header could not be
read, and when the page gives the code. -/
theorem recorded_fits_iff (known : Visitor.Register) (g : Visitor.Geolocator) (m : Moments)
    (site : Site) (r : CountRequest) (h : Hit)
    (recorded : (count (⟨Visitor.classify, g⟩ : Counter known) m site r).verdict =
      .ok (.recorded h)) :
    ∃ p, Payload.InEffect r.target r.body p ∧
      (h.CodeFits p ↔
        Visitor.Legible r.headers ∨ Text.trim h.userAgent.toList = [] ∨ h.CodeGiven p) ∧
      (¬ Visitor.Legible r.headers → h.bot = 165) ∧
      (h.bot = 165 ↔
        ¬ Visitor.Legible r.headers ∨ Text.trim h.userAgent.toList = [] ∨ h.CodeGiven p) := by
  obtain ⟨quiet, -, p, ha, -⟩ := count_eq_recorded_iff.mp recorded
  have hstored : h.userAgent = userAgent r.headers :=
    congrArg ServerPart.userAgent ha.serverPart_eq
  refine ⟨p, Payload.decode_eq_ok_iff.mp ha.decodes, ?_⟩
  by_cases legible : Visitor.Legible r.headers
  · have fits : h.CodeFits p := by
      rw [Hit.CodeFits, hstored, ← Visitor.classify_legible quiet legible]
      exact ha.bot_eq
    simp only [legible, fits, fits.bot_eq_iff, true_or, not_true_eq_false, false_implies, false_or,
      and_self]
  · have hbot : h.bot = 165 := ha.bot_eq.1 _ (Visitor.classify_illegible quiet legible)
    simp only [legible, hbot, Hit.codeFits_iff_of_bot_eq hbot, false_or, not_false_eq_true,
      true_implies, true_or, and_self]

/-- The browser's view that claims another site, with a code of its own. -/
theorem recorded_fits_browser :
    (inCalifornia.count ⟨0, 0⟩ ⟨7, "a.example", {}⟩
        ⟨"192.0.2.1", browser, claimingSite, []⟩).verdict = .ok (.recorded byBrowser) ∧
      ∃ p, Payload.InEffect claimingSite [] p ∧ byBrowser.CodeFits p := by
  have hv := Verdict.hits_eq_singleton_iff.mp (show (inCalifornia.count ⟨0, 0⟩ ⟨7, "a.example", {}⟩
    ⟨"192.0.2.1", browser, claimingSite, []⟩).verdict.hits = [byBrowser] by decide)
  have legible : Visitor.Legible browser := by
    rintro _ ⟨⟩
    decide
  obtain ⟨p, hp, hfits, -⟩ := recorded_fits_iff _ _ _ _ _ _ hv
  exact ⟨hv, p, hp, hfits.mpr (.inl legible)⟩

/-- A browser whose user agent ends in a letter beyond ASCII. -/
def foreignBrowser : Http.Headers := [⟨"User-Agent", Text.encode "Mozilla/5.0 (X11) é".toList⟩]

/-- The target of a view that gives a path alone. -/
def plainView : Http.Target := ⟨none, [], some (Text.encode "p=/a".toList)⟩

/-- The hit of that view. -/
def byForeign : Hit :=
  { byBrowser with userAgent := "Mozilla/5.0 (X11) é", bot := 165 }

/-- The text that is stored speaks for no bot, and the page gives no code, but the hit is counted
with the code for no user agent. -/
theorem foreignBrowser_unfit :
    (inCalifornia.count ⟨0, 0⟩ ⟨7, "a.example", {}⟩
        ⟨"192.0.2.1", foreignBrowser, plainView, []⟩).verdict = .ok (.recorded byForeign) ∧
      Payload.InEffect plainView [] { path := some "/a" } ∧
      Visitor.classifyUserAgent byForeign.userAgent = .noBot ∧
      Text.trim byForeign.userAgent.toList ≠ [] ∧ byForeign.bot = 165 ∧
      ¬ byForeign.CodeFits { path := some "/a" } := by
  have hv := Verdict.hits_eq_singleton_iff.mp (show (inCalifornia.count ⟨0, 0⟩ ⟨7, "a.example", {}⟩
    ⟨"192.0.2.1", foreignBrowser, plainView, []⟩).verdict.hits = [byForeign] by decide)
  have hp : Payload.InEffect plainView [] { path := some "/a" } :=
    Payload.decode_eq_ok_iff.mp (by rfl)
  have hclass : Visitor.classifyUserAgent byForeign.userAgent = .noBot := by decide
  have hunfit : ¬ byForeign.CodeFits { path := some "/a" } := fun fits =>
    absurd (fits.2 hclass) (by decide)
  exact ⟨hv, hp, hclass, by decide, rfl, hunfit⟩

end Counter

end HitCounter
