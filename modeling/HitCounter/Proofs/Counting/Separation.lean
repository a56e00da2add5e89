import HitCounter.Proofs.Counting.Recorded

/-!
# The two parts of a hit

A hit has a part that only the server knows and a part that only the page says. Nothing that a page
sends reaches the first, and nothing that a request or a site has besides reaches the second.

- **Parts** (`Hit.serverPart`, `Hit.pagePart`): merging a payload keeps the server's part, and a
  hit that is begun has an empty page's part.
- **Separation** (`Counter.parts_separate`): of two requests that are both counted, those that
  differ only in target and body agree on the server's part, and those with the same target and
  body on the page's part. The code for bots belongs to the server when it found a bot, and to the
  page when it found none.
-/

namespace HitCounter

/-- What the server says of a hit, apart from its time. -/
structure ServerPart where
  site : Int
  remoteAddr : String
  userAgent : String
  location : Option String
  language : Option String
deriving DecidableEq

/-- What the page says of a hit, apart from the code for bots. -/
structure PagePart where
  path : String
  title : String
  referrer : String
  query : String
  event : Bool
  size : List Numeric.Double
deriving DecidableEq

namespace Hit

/-- The part of the server. -/
def serverPart (h : Hit) : ServerPart :=
  ⟨h.site, h.remoteAddr, h.userAgent, h.location, h.language⟩

/-- The part of the page. -/
def pagePart (h : Hit) : PagePart :=
  ⟨h.path, h.title, h.referrer, h.query, h.event, h.size⟩

@[simp] theorem serverPart_merge (h : Hit) (p : Payload) :
    (h.merge p).serverPart = h.serverPart := rfl

/-- Hits that agree on the page's part still do when the same payload is merged into them. -/
theorem pagePart_merge {h h' : Hit} (heq : h.pagePart = h'.pagePart) (p : Payload) :
    (h.merge p).pagePart = (h'.merge p).pagePart := by
  simp only [pagePart, PagePart.mk.injEq] at heq
  obtain ⟨hpath, htitle, href, hquery, hevent, hsize⟩ := heq
  simp only [pagePart, merge, hpath, htitle, href, hquery, hevent, hsize]

theorem bot_merge {h h' : Hit} (heq : h.bot = h'.bot) (p : Payload) :
    (h.merge p).bot = (h'.merge p).bot := by
  simp only [merge, heq]

end Hit

namespace Counter

variable {known : Visitor.Register}

@[simp] theorem serverPart_mark (found : Visitor.BotClass) (h : Hit) :
    (mark found h).serverPart = h.serverPart := by
  unfold mark
  split <;> rfl

@[simp] theorem pagePart_mark (found : Visitor.BotClass) (h : Hit) :
    (mark found h).pagePart = h.pagePart := by
  unfold mark
  split <;> rfl

theorem bot_mark_bot (kind : Visitor.BotKind) (h : Hit) : (mark (.bot kind) h).bot = kind.code :=
  rfl

theorem mark_noBot (h : Hit) : mark .noBot h = h := rfl

/-- The server's part of a hit that is begun does not depend on the target, the body or the time. -/
theorem serverPart_begin (c : Counter known) (t₁ t₂ : Instant) (site : Site) {r₁ r₂ : CountRequest}
    (hp : r₁.peer = r₂.peer) (hh : r₁.headers = r₂.headers) :
    (c.begin t₁ site r₁).serverPart = (c.begin t₂ site r₂).serverPart := by
  simp only [begin, Hit.serverPart, hp, hh]

/-- The page's part of a hit that is begun is empty. -/
theorem pagePart_begin (c : Counter known) (t : Instant) (site : Site) (r : CountRequest) :
    (c.begin t site r).pagePart = ⟨"", "", "", "", false, []⟩ := rfl

theorem bot_begin (c : Counter known) (t : Instant) (site : Site) (r : CountRequest) :
    (c.begin t site r).bot = 0 := rfl

/-- The server's part of a counted hit is that of the hit that was begun. -/
theorem Assembles.serverPart_eq {found : Visitor.BotClass} {begun h : Hit} {r : CountRequest}
    {p : Payload} (ha : Assembles found begun r p h) : h.serverPart = begun.serverPart := by
  rw [ha.eq, serverPart_mark, Hit.serverPart_merge]

/-- The payload of a counted hit is determined by the target and the body. -/
theorem Assembles.payload_eq {found₁ found₂ : Visitor.BotClass} {begun₁ begun₂ h₁ h₂ : Hit}
    {r₁ r₂ : CountRequest} {p₁ p₂ : Payload} (h₁' : Assembles found₁ begun₁ r₁ p₁ h₁)
    (h₂' : Assembles found₂ begun₂ r₂ p₂ h₂) (ht : r₁.target = r₂.target)
    (hb : r₁.body = r₂.body) : p₁ = p₂ := by
  have h := h₁'.decodes
  rw [ht, hb, h₂'.decodes] at h
  exact (Except.ok.inj h).symm

/-- **Separation.** Whatever a page sends, the server's part of its hit comes from the headers, the
connection and the site alone, and so does the code for bots when the server found a bot. Whatever
these are, the page's part comes from the target and the body alone, and so does the code for bots
when the server found none. -/
theorem parts_separate (c : Counter known) :
    (∀ site headers peer target₁ body₁ target₂ body₂ m₁ m₂ h₁ h₂,
      (c.count m₁ site ⟨peer, headers, target₁, body₁⟩).verdict = .ok (.recorded h₁) →
      (c.count m₂ site ⟨peer, headers, target₂, body₂⟩).verdict = .ok (.recorded h₂) →
      h₁.serverPart = h₂.serverPart ∧
        ∀ kind, c.classifier headers = .bot kind → h₁.bot = kind.code ∧ h₂.bot = kind.code) ∧
    (∀ target body site₁ headers₁ peer₁ site₂ headers₂ peer₂ m₁ m₂ h₁ h₂,
      (c.count m₁ site₁ ⟨peer₁, headers₁, target, body⟩).verdict = .ok (.recorded h₁) →
      (c.count m₂ site₂ ⟨peer₂, headers₂, target, body⟩).verdict = .ok (.recorded h₂) →
      h₁.pagePart = h₂.pagePart ∧
        (c.classifier headers₁ = .noBot → c.classifier headers₂ = .noBot → h₁.bot = h₂.bot)) := by
  constructor
  · intro site headers peer target₁ body₁ target₂ body₂ m₁ m₂ h₁ h₂ hc₁ hc₂
    obtain ⟨-, -, p₁, ha₁, -⟩ := count_eq_recorded_iff.mp hc₁
    obtain ⟨-, -, p₂, ha₂, -⟩ := count_eq_recorded_iff.mp hc₂
    refine ⟨?_, fun kind hk => ⟨?_, ?_⟩⟩
    · rw [ha₁.serverPart_eq, ha₂.serverPart_eq]
      exact serverPart_begin c _ _ site rfl rfl
    · rw [ha₁.eq, hk, bot_mark_bot]
    · rw [ha₂.eq, hk, bot_mark_bot]
  · intro target body site₁ headers₁ peer₁ site₂ headers₂ peer₂ m₁ m₂ h₁ h₂ hc₁ hc₂
    obtain ⟨-, -, p₁, ha₁, -⟩ := count_eq_recorded_iff.mp hc₁
    obtain ⟨-, -, p₂, ha₂, -⟩ := count_eq_recorded_iff.mp hc₂
    obtain rfl := ha₁.payload_eq ha₂ rfl rfl
    refine ⟨?_, fun hn₁ hn₂ => ?_⟩
    · rw [ha₁.eq, ha₂.eq, pagePart_mark, pagePart_mark]
      exact Hit.pagePart_merge (by rw [pagePart_begin, pagePart_begin]) p₁
    · rw [ha₁.eq, ha₂.eq, hn₁, hn₂, mark_noBot, mark_noBot]
      exact Hit.bot_merge (by rw [bot_begin, bot_begin]) p₁

/-! ### Two pages and two clients -/

/-- A counter whose clients are all in one place. -/
def inCalifornia : Counter := ⟨Visitor.classify, fun _ => some "US-CA"⟩

/-- A command-line client. -/
def curl : Http.Headers := [⟨"User-Agent", Text.encode "curl/8.0.1 (x)".toList⟩]

/-- A browser. -/
def browser : Http.Headers := [⟨"User-Agent", Text.encode "Mozilla/5.0 (X11)".toList⟩]

/-- A browser behind a proxy. -/
def proxied : Http.Headers :=
  ⟨"X-Forwarded-For", Text.encode "10.0.0.1, 198.51.100.7".toList⟩ :: browser

/-- The target of a view of a page that claims another site. -/
def claimingSite : Http.Target := ⟨none, [], some (Text.encode "p=/a&b=150&site=9".toList)⟩

/-- The hit of that view by the command-line client. -/
def byCurl : Hit where
  site := 7
  remoteAddr := "192.0.2.1"
  userAgent := "curl/8.0.1 (x)"
  createdAt := 0
  path := "/a"
  bot := 161
  location := some "US-CA"

/-- The hit of that view by the browser. -/
def byBrowser : Hit where
  site := 7
  remoteAddr := "192.0.2.1"
  userAgent := "Mozilla/5.0 (X11)"
  createdAt := 0
  path := "/a"
  bot := 150
  location := some "US-CA"

/-- The hit of that view by the browser behind the proxy, on a site that keeps no location. -/
def byProxied : Hit :=
  { byBrowser with site := 8, remoteAddr := "198.51.100.7", createdAt := 5, location := none }

/-- The command-line client sends two payloads, and two browsers send the first of them. -/
theorem parts_separate_curl :
    ((inCalifornia.count ⟨0, 0⟩ ⟨7, "a.example", {}⟩
          ⟨"192.0.2.1", curl, claimingSite, []⟩).verdict = .ok (.recorded byCurl) ∧
      (inCalifornia.count ⟨0, 0⟩ ⟨7, "a.example", {}⟩ ⟨"192.0.2.1", curl, ⟨none, [], none⟩,
          Text.encode "\x7b\"p\":\"/b\",\"location\":\"FR\"\x7d".toList⟩).verdict =
        .ok (.recorded { byCurl with path := "/b" }) ∧
      byCurl.serverPart = ({ byCurl with path := "/b" } : Hit).serverPart ∧ byCurl.bot = 161) ∧
    (inCalifornia.count ⟨0, 0⟩ ⟨7, "a.example", {}⟩
        ⟨"192.0.2.1", browser, claimingSite, []⟩).verdict = .ok (.recorded byBrowser) ∧
      (inCalifornia.count ⟨5, 5⟩ ⟨8, "b.example", ⟨["192.0.2.1"], ⟨false, true, true⟩⟩⟩
        ⟨"192.0.2.1", proxied, claimingSite, []⟩).verdict = .ok (.recorded byProxied) ∧
      byBrowser.pagePart = byProxied.pagePart ∧ byBrowser.bot = byProxied.bot := by
  have h₁ := Verdict.hits_eq_singleton_iff.mp (show (inCalifornia.count ⟨0, 0⟩ ⟨7, "a.example", {}⟩
    ⟨"192.0.2.1", curl, claimingSite, []⟩).verdict.hits = [byCurl] by decide)
  have h₂ := Verdict.hits_eq_singleton_iff.mp (show (inCalifornia.count ⟨0, 0⟩ ⟨7, "a.example", {}⟩
    ⟨"192.0.2.1", curl, ⟨none, [], none⟩,
      Text.encode "\x7b\"p\":\"/b\",\"location\":\"FR\"\x7d".toList⟩).verdict.hits =
    [{ byCurl with path := "/b" }] by decide)
  have h₃ := Verdict.hits_eq_singleton_iff.mp (show (inCalifornia.count ⟨0, 0⟩ ⟨7, "a.example", {}⟩
    ⟨"192.0.2.1", browser, claimingSite, []⟩).verdict.hits = [byBrowser] by decide)
  have h₄ := Verdict.hits_eq_singleton_iff.mp (show (inCalifornia.count ⟨5, 5⟩
    ⟨8, "b.example", ⟨["192.0.2.1"], ⟨false, true, true⟩⟩⟩
    ⟨"192.0.2.1", proxied, claimingSite, []⟩).verdict.hits = [byProxied] by decide)
  obtain ⟨hserver, hbot⟩ := (parts_separate inCalifornia).1 _ _ _ _ _ _ _ _ _ _ _ h₁ h₂
  obtain ⟨hpage, hbots⟩ := (parts_separate inCalifornia).2 _ _ _ _ _ _ _ _ _ _ _ _ h₃ h₄
  exact ⟨⟨h₁, h₂, hserver, (hbot .clientLibrary (by decide)).1⟩, h₃, h₄, hpage,
    hbots (by decide) (by decide)⟩

end Counter

end HitCounter
