import HitCounter.Proofs.Endpoint.Sink
import HitCounter.Proofs.Text.Ascii

/-!
# Every answer is the image

- **What becomes of a request** (`Counter.Becomes`): the ways in which a request can end whose path
  and method count, whatever its host, its headers, its body and the state of the store.
- **Diagnostics** (`Carries`): the value of the diagnostic header has one byte for each character of
  the message, and none that could end the header.
- **Answers** (`Verdict.HasStatus`, `Counter.serve_answers`): each way ends in the same image with
  the same headers; only the status and the diagnostic tell what became of the request.
- **Requests that are passed over** (`Counter.passed_over_iff_fits`): a preload and an ignored
  client are passed over whatever the query and the body hold, unless the body is too long to be
  read.
-/

namespace HitCounter

/-! ## What becomes of a request -/

namespace Counter

variable {known : Visitor.Register}

/-- What becomes of a request whose path and method count. The body is measured only for a site that
is known. -/
inductive Becomes (c : Counter known) (m : Moments) (r : Request) (s : Store) : Verdict → Prop where
  | noHost (unnamed : Http.requestHost r.headers r.target = none) :
    Becomes c m r s (.error .unknownSite)
  | noSite {host : String} (named : Http.requestHost r.headers r.target = some host)
    (lookup : (s.siteByHost host).1 = .ok none) : Becomes c m r s (.error .unknownSite)
  | lookupFailed {host : String} {e : StoreFault}
    (named : Http.requestHost r.headers r.target = some host)
    (lookup : (s.siteByHost host).1 = .error e) : Becomes c m r s (.error (.lookupFailed e))
  | oversized {host : String} {site : Site}
    (named : Http.requestHost r.headers r.target = some host)
    (lookup : (s.siteByHost host).1 = .ok (some site)) (long : 2097152 < r.body.length) :
    Becomes c m r s (.error (.undecodable .oversized))
  | counted {host : String} {site : Site}
    (named : Http.requestHost r.headers r.target = some host)
    (lookup : (s.siteByHost host).1 = .ok (some site)) (fits : r.body.length ≤ 2097152) :
    Becomes c m r s (c.count m site r.toCount).verdict

variable {c : Counter known} {m : Moments} {r : Request} {s : Store} {host : String} {site : Site}

/-- The site that a request addresses is the one found under its host. -/
theorem site_eq (named : Http.requestHost r.headers r.target = some host) :
    (r.site s).1 = match (s.siteByHost host).1 with
      | .ok (some site) => .ok site
      | .ok none => .error .unknownSite
      | .error e => .error (.lookupFailed e) := by
  simp only [Request.site, named]
  rcases s.siteByHost host with ⟨_ | _ | _, _⟩ <;> rfl

theorem site_of_lookup (named : Http.requestHost r.headers r.target = some host)
    (lookup : (s.siteByHost host).1 = .ok (some site)) : (r.site s).1 = .ok site := by
  rw [site_eq named, lookup]

theorem site_of_missing (named : Http.requestHost r.headers r.target = some host)
    (lookup : (s.siteByHost host).1 = .ok none) : (r.site s).1 = .error .unknownSite := by
  rw [site_eq named, lookup]

theorem site_of_unnamed (unnamed : Http.requestHost r.headers r.target = none) :
    (r.site s).1 = .error .unknownSite := by
  simp only [Request.site, unnamed]

theorem site_of_failure {e : StoreFault} (named : Http.requestHost r.headers r.target = some host)
    (lookup : (s.siteByHost host).1 = .error e) : (r.site s).1 = .error (.lookupFailed e) := by
  rw [site_eq named, lookup]

theorem verdict_failed {e : StoreFault} (hsite : (r.site s).1 = .error (.lookupFailed e)) :
    c.verdict m r s = .error (.lookupFailed e) := by
  simp only [verdict, hsite]

theorem verdict_unknown (hsite : (r.site s).1 = .error .unknownSite) :
    c.verdict m r s = .error .unknownSite := by
  simp only [verdict, hsite]

theorem verdict_oversized (hsite : (r.site s).1 = .ok site) (long : 2097152 < r.body.length) :
    c.verdict m r s = .error (.undecodable .oversized) := by
  have hlong : longestBody < r.body.length := long
  simp only [verdict, hsite, handle, hlong, ↓reduceIte]

theorem verdict_counted (hsite : (r.site s).1 = .ok site) (fits : r.body.length ≤ 2097152) :
    c.verdict m r s = (c.count m site r.toCount).verdict := by
  have hfits : ¬ longestBody < r.body.length := Nat.not_lt.mpr fits
  simp only [verdict, hsite, handle, hfits, ↓reduceIte]

/-- Every request whose path and method count ends in one of these ways. -/
theorem becomes_verdict : Becomes c m r s (c.verdict m r s) := by
  cases named : Http.requestHost r.headers r.target with
  | none =>
    rw [verdict_unknown (site_of_unnamed named)]
    exact .noHost named
  | some host =>
    cases lookup : (s.siteByHost host).1 with
    | error e =>
      rw [verdict_failed (site_of_failure named lookup)]
      exact .lookupFailed named lookup
    | ok found =>
      cases found with
      | none =>
        rw [verdict_unknown (site_of_missing named lookup)]
        exact .noSite named lookup
      | some site =>
        have hsite := site_of_lookup named lookup
        by_cases long : 2097152 < r.body.length
        · rw [verdict_oversized hsite long]
          exact .oversized named lookup long
        · rw [verdict_counted hsite (Nat.le_of_not_lt long)]
          exact .counted named lookup (Nat.le_of_not_lt long)

/-- No request ends in two ways. -/
theorem Becomes.eq_verdict {v : Verdict} (h : Becomes c m r s v) : v = c.verdict m r s := by
  symm
  cases h with
  | noHost unnamed => exact verdict_unknown (site_of_unnamed unnamed)
  | noSite named lookup => exact verdict_unknown (site_of_missing named lookup)
  | lookupFailed named lookup => exact verdict_failed (site_of_failure named lookup)
  | oversized named lookup long => exact verdict_oversized (site_of_lookup named lookup) long
  | counted named lookup fits => exact verdict_counted (site_of_lookup named lookup) fits

end Counter

/-! ## Diagnostics -/

/-- The value carries the message, one byte for each character: printable ASCII as it stands, and a
question mark in the place of anything else. -/
def Carries (value message : String) : Prop :=
  List.Forall₂ (fun (b : UInt8) (c : Char) =>
    b.toNat = if 0x20 ≤ c.toNat ∧ c.toNat ≤ 0x7E then c.toNat else '?'.toNat)
    (Text.encode value.toList) message.toList

theorem Carries.length {value message : String} (h : Carries value message) :
    (Text.encode value.toList).length = message.length := by
  rw [List.Forall₂.length_eq h, String.length_toList]

/-- No byte of a value that carries a message could end the header. -/
theorem Carries.printable {value message : String} (h : Carries value message) :
    ∀ b ∈ Text.encode value.toList, 0x20 ≤ b.toNat ∧ b.toNat ≤ 0x7E := by
  unfold Carries at h
  generalize Text.encode value.toList = bytes at h
  generalize message.toList = chars at h
  induction h with
  | nil => exact List.forall_mem_nil _
  | cons hb _ ih =>
    refine List.forall_mem_cons.mpr ⟨?_, ih⟩
    rw [hb]
    split
    · assumption
    · decide

theorem headerChar_bounds (c : Char) :
    0x20 ≤ (headerChar c).toNat ∧ (headerChar c).toNat ≤ 0x7E := by
  unfold headerChar
  split
  · assumption
  · decide

/-- The bytes of a message in a header, before they are looked at once more. -/
theorem encode_map_headerChar (s : List Char) :
    Text.encode (s.map headerChar) = s.map fun c => UInt8.ofNat (headerChar c).toNat := by
  have hascii : ∀ c ∈ s.map headerChar, c.toNat < 0x80 := by
    intro c hc
    obtain ⟨d, -, rfl⟩ := List.mem_map.mp hc
    have := headerChar_bounds d
    omega
  rw [Text.encode_ascii hascii, List.map_map]
  rfl

/-- The second look finds nothing, so that a value is never replaced as a whole. -/
theorem headerValue_eq (s : String) : headerValue s = String.ofList (s.toList.map headerChar) := by
  unfold headerValue
  refine if_pos ?_
  rw [String.toList_ofList]
  refine Http.isVisible_encode fun c hc => ?_
  obtain ⟨d, -, rfl⟩ := List.mem_map.mp hc
  exact .inr (headerChar_bounds d)

/-- **A message survives in a header**, byte for character. -/
theorem headerValue_carries (message : String) : Carries (headerValue message) message := by
  rw [Carries, headerValue_eq, String.toList_ofList, encode_map_headerChar,
    List.forall₂_map_left_iff, List.forall₂_same]
  intro c _
  have hbounds := headerChar_bounds c
  rw [Text.toNat_byte (by omega)]
  unfold headerChar
  split <;> rfl

namespace Verdict

/-- Nothing is said of a hit that is counted or of a preload. -/
def IsSilent (v : Verdict) : Prop := v = .ok .prefetch ∨ ∃ h, v = .ok (.recorded h)

theorem diagnostic?_eq_none_iff {v : Verdict} : v.diagnostic? = none ↔ v.IsSilent := by
  unfold IsSilent diagnostic?
  split <;> simp

theorem one_lt_length_append {s t : String} (h : 1 < s.length) : 1 < (s ++ t).length := by
  rw [String.length_append]
  omega

/-- Every message has more than one character. -/
theorem diagnostic?_length {v : Verdict} {message : String} (h : v.diagnostic? = some message) :
    1 < message.length := by
  unfold diagnostic? at h
  split at h
  · cases h
  · cases h
  · rename_i rule
    cases h
    rw [String.append_assoc]
    exact one_lt_length_append (by decide)
  · rename_i e
    obtain rfl := Option.some.inj h
    cases e with
    | undecodable e =>
      change 1 < ("error decoding parameters: " ++ e.message).length
      exact one_lt_length_append (by decide)
    | reservedBot code =>
      change 1 < ("wrong value: b=" ++ toString code).length
      exact one_lt_length_append (by decide)
    | longPath size =>
      change 1 < ("ignored because path is longer than 2048 bytes (" ++ toString size ++
        " bytes)").length
      rw [String.append_assoc]
      exact one_lt_length_append (by decide)
    | invalid complaints =>
      change 1 < ("not valid: " ++ complaintsText complaints).length
      exact one_lt_length_append (by decide)
    | unknownSite => decide
    | lookupFailed e =>
      change 1 < "error looking up site".length
      decide

/-! ### Statuses -/

/-- The status that goes with each verdict. -/
inductive HasStatus : Verdict → Nat → Prop where
  | recorded (h : Hit) : HasStatus (.ok (.recorded h)) 200
  | prefetch : HasStatus (.ok .prefetch) 200
  | ignored (rule : String) : HasStatus (.ok (.ignored rule)) 202
  | undecodable (e : DecodeFault) : HasStatus (.error (.undecodable e)) 400
  | reservedBot (code : Int) : HasStatus (.error (.reservedBot code)) 400
  | invalid (complaints : List Complaint) : HasStatus (.error (.invalid complaints)) 400
  | unknownSite : HasStatus (.error .unknownSite) 404
  | longPath (size : Nat) : HasStatus (.error (.longPath size)) 414
  | lookupFailed (e : StoreFault) : HasStatus (.error (.lookupFailed e)) 500

theorem hasStatus_status (v : Verdict) : v.HasStatus v.status := by
  cases v with
  | ok o => cases o <;> constructor
  | error e => cases e <;> constructor

theorem HasStatus.unique {v : Verdict} {n n' : Nat} (h : v.HasStatus n) (h' : v.HasStatus n') :
    n = n' := by
  cases h <;> cases h' <;> rfl

theorem HasStatus.mem {v : Verdict} {status : Nat} (h : v.HasStatus status) :
    status ∈ [200, 202, 400, 404, 414, 500] := by
  cases h <;> decide

end Verdict

/-! ## Answers -/

/-- A response answers a verdict: it has the status that goes with the verdict, the image and its
headers are always the same, and a diagnostic stands in one more header unless nothing is to be
said. A request for the headers alone gets no image. -/
structure Response.Answers (response : Response) (v : Verdict) (headersOnly : Prop)
    [Decidable headersOnly] : Prop where
  status : v.HasStatus response.status
  status_mem : response.status ∈ [200, 202, 400, 404, 414, 500]
  body : response.body = if headersOnly then [] else pixel
  headers : ∃ told : Option String,
    response.headers =
      [("access-control-allow-origin", "*"), ("connection", "close"),
        ("content-type", "image/gif"), ("cross-origin-resource-policy", "cross-origin")] ++
        (told.map ("x-beacon", ·)).toList ++ [("content-length", "43")] ∧
    (told = none ↔ v.IsSilent) ∧
    ∀ value, told = some value → value ≠ "?" ∧
      (∀ b ∈ Text.encode value.toList, 0x20 ≤ b.toNat ∧ b.toNat ≤ 0x7E) ∧
      ∃ message, v.diagnostic? = some message ∧ Carries value message ∧
        (Text.encode value.toList).length = message.length

/-- The answer to a verdict, with the length of the image. -/
theorem Verdict.response_answers (v : Verdict) (headersOnly : Prop) [Decidable headersOnly] :
    Response.Answers (if headersOnly then v.response.withLength.withoutBody
      else v.response.withLength) v headersOnly where
  status := by split <;> exact v.hasStatus_status
  status_mem := by split <;> exact v.hasStatus_status.mem
  body := by split <;> rfl
  headers := by
    refine ⟨v.diagnostic?.map headerValue, ?_, ?_, ?_⟩
    · have hheaders : v.response.withLength.headers =
          pixelHeaders ++ ((v.diagnostic?.map headerValue).map ("x-beacon", ·)).toList ++
            [("content-length", "43")] := by
        rw [Option.map_map, ← show toString pixel.length = "43" by decide]
        rfl
      split <;> exact hheaders
    · rw [Option.map_eq_none_iff, diagnostic?_eq_none_iff]
    · intro value hvalue
      obtain ⟨message, hmessage, rfl⟩ := Option.map_eq_some_iff.mp hvalue
      have hcarries := headerValue_carries message
      refine ⟨fun heq => ?_, hcarries.printable, message, hmessage, hcarries, hcarries.length⟩
      have hlength := hcarries.length
      rw [heq, show (Text.encode "?".toList).length = 1 from rfl] at hlength
      have := diagnostic?_length hmessage
      omega

/-- A response to a verdict of which nothing is said has no diagnostic. -/
theorem Response.Answers.untold {response : Response} {v : Verdict} {p : Prop} [Decidable p]
    (h : response.Answers v p) (hs : v.IsSilent) : ∀ e ∈ response.headers, e.1 ≠ "x-beacon" := by
  obtain ⟨told, heq, hnone, -⟩ := h.headers
  obtain rfl := hnone.mpr hs
  rw [heq]
  decide

namespace Counter

variable {known : Visitor.Register} {c : Counter known} {m : Moments} {r : Request} {s : Store}

/-- The response to a request whose path and method count. -/
theorem serve_response (hpath : r.target.path = countPath) (hmethod : r.method ∈ countMethods) :
    (c.serve m r s).1.response =
      if r.method = "HEAD" then (c.verdict m r s).response.withLength.withoutBody
      else (c.verdict m r s).response.withLength := by
  simp only [serve, hpath, ↓reduceIte, reply, hmethod, verdict]
  cases (r.site s).1 <;> rfl

/-- What becomes of a request does not depend on its method. -/
theorem verdict_withMethod (method : String) :
    c.verdict m { r with method } s = c.verdict m r s := rfl

/-- **Every answer is the image.** Whatever its host, its headers, its body and the state of the
store, a request whose path and method count ends in one of the ways of `Becomes` and is answered
with the one image. A request for the headers alone gets those of the full answer. -/
theorem serve_answers (c : Counter known) (m : Moments) (r : Request) (s : Store)
    (hpath : r.target.path = Text.encode "/count".toList)
    (hmethod : r.method ∈ ["GET", "HEAD", "POST"]) :
    pixel.length = 43 ∧
    (∃ v, Becomes c m r s v ∧ (c.serve m r s).1.response.Answers v (r.method = "HEAD")) ∧
    (c.serve m { r with method := "HEAD" } s).1.response =
      { (c.serve m r s).1.response with body := [] } := by
  have hresponse := serve_response (c := c) (m := m) (s := s) hpath hmethod
  have hhead := serve_response (c := c) (m := m) (r := { r with method := "HEAD" }) (s := s) hpath
    (by decide : "HEAD" ∈ countMethods)
  refine ⟨rfl, ⟨c.verdict m r s, becomes_verdict, ?_⟩, ?_⟩
  · rw [hresponse]
    exact (c.verdict m r s).response_answers (r.method = "HEAD")
  · rw [hhead, hresponse, verdict_withMethod, if_pos rfl]
    split <;> rfl

/-- A view whose flag is a letter beyond ASCII. -/
def accented : Request :=
  { App.view with
    method := "POST"
    target := ⟨none, countPath, some (Text.encode "p=/a&e=%C3%A9".toList)⟩
    headers := ⟨"Host", Text.encode "A.example:80".toList⟩ :: App.view.headers }

/-- The store with a site for that view. -/
def oneSite : Store := (App.start.store.createSite "a.example" {}).2

/-- The diagnostic quotes the flag, with a question mark for the letter. Without the site, and
without any tables, the same view gets other statuses. -/
theorem serve_answers_accented :
    let c : Counter := ⟨Visitor.classify, fun _ => none⟩
    let response := (c.serve ⟨0, 0⟩ accented oneSite).1.response
    accented.target.path = Text.encode "/count".toList ∧
      accented.method ∈ ["GET", "HEAD", "POST"] ∧
      (response.status, response.headers[4]?) = (400, some ("x-beacon",
        "error decoding parameters: " ++
          "Failed to deserialize query string: e: invalid flag value \"?\"")) ∧
      (∃ v, c.Becomes ⟨0, 0⟩ accented oneSite v ∧
        response.Answers v (accented.method = "HEAD")) ∧
      (c.serve ⟨0, 0⟩ accented App.start.store).1.response.status = 404 ∧
      (c.serve ⟨0, 0⟩ accented {}).1.response.status = 500 := by
  intro c response
  have hpath : accented.target.path = Text.encode "/count".toList := by decide
  have hmethod : accented.method ∈ ["GET", "HEAD", "POST"] := by decide
  have named : Http.requestHost accented.headers accented.target = some "a.example" := by
    decide +kernel
  obtain ⟨-, hanswers, -⟩ := serve_answers c ⟨0, 0⟩ accented oneSite hpath hmethod
  obtain ⟨-, ⟨unknown, hunknown, h404⟩, -⟩ :=
    serve_answers c ⟨0, 0⟩ accented App.start.store hpath hmethod
  obtain ⟨-, ⟨failed, hfailed, h500⟩, -⟩ := serve_answers c ⟨0, 0⟩ accented {} hpath hmethod
  obtain rfl : unknown = .error .unknownSite :=
    hunknown.eq_verdict.trans (verdict_unknown (site_of_missing named (by decide +kernel)))
  obtain rfl : failed = .error (.lookupFailed (.noTable "sites")) :=
    hfailed.eq_verdict.trans (verdict_failed (site_of_failure named (by decide +kernel)))
  exact ⟨hpath, hmethod, by decide +kernel, hanswers, h404.status.unique .unknownSite,
    h500.status.unique (.lookupFailed _)⟩

/-! ## Requests that are passed over -/

/-- A body that is too long is rejected, whatever the headers say. -/
theorem serve_oversized (hpath : r.target.path = countPath) (hmethod : r.method ∈ countMethods)
    {host : String} {site : Site} (named : Http.requestHost r.headers r.target = some host)
    (lookup : (s.siteByHost host).1 = .ok (some site)) (long : 2097152 < r.body.length) :
    (c.serve m r s).1.response.status = 400 ∧ (c.serve m r s).1.hits = [] := by
  obtain ⟨hhits, hstatus⟩ := serve_counting (c := c) (m := m) (s := s) hpath hmethod
  rw [hhits, hstatus, verdict_oversized (site_of_lookup named lookup) long]
  exact ⟨rfl, rfl⟩

/-- **Passed over.** A preload is answered with status 200 and no diagnostic, and a request of a
client that the site ignores with status 202; neither is counted, and neither the query nor the body
is looked at. But the body must not be too long: the request is then rejected before anything else
is known of it. -/
theorem passed_over_iff_fits (known : Visitor.Register) (geolocator : Visitor.Geolocator)
    (m : Moments) (r : Request) (s : Store) {host : String} {site : Site}
    (hpath : r.target.path = Text.encode "/count".toList)
    (hmethod : r.method ∈ ["GET", "HEAD", "POST"])
    (named : Http.requestHost r.headers r.target = some host)
    (lookup : (s.siteByHost host).1 = .ok (some site)) :
    let c : Counter known := ⟨Visitor.classify, geolocator⟩
    let reply := (c.serve m r s).1
    (Visitor.AnnouncesPreload r.headers →
      (reply.response.status = 200 ∧ (∀ h ∈ reply.response.headers, h.1 ≠ "x-beacon") ∧
        reply.hits = [] ↔ r.body.length ≤ 2097152)) ∧
    (¬ Visitor.AnnouncesPreload r.headers →
      Visitor.clientAddress r.headers (String.ofList r.peer.text) ∈ site.settings.ignored →
      (reply.response.status = 202 ∧ reply.hits = [] ↔ r.body.length ≤ 2097152)) ∧
    (2097152 < r.body.length → reply.response.status = 400 ∧ reply.hits = []) := by
  intro c reply
  have hsite := site_of_lookup named lookup
  obtain ⟨hhits, hstatus⟩ := serve_counting (c := c) (m := m) (s := s) hpath hmethod
  have hlong : 2097152 < r.body.length → reply.response.status = 400 ∧ reply.hits = [] :=
    serve_oversized hpath hmethod named lookup
  -- A body that is too long is answered with neither of the two other statuses.
  have hfits {status : Nat} (hne : status ≠ 400) (h : reply.response.status = status) :
      r.body.length ≤ 2097152 :=
    Nat.le_of_not_lt fun long => hne (h.symm.trans (hlong long).1)
  refine ⟨fun hpre => ⟨fun h => hfits (by decide) h.1, fun fits => ?_⟩,
    fun hquiet hclient => ⟨fun h => hfits (by decide) h.1, fun fits => ?_⟩, hlong⟩
  · have hv : c.verdict m r s = .ok .prefetch := by
      rw [verdict_counted hsite fits]
      exact count_prefetch (Visitor.classify_eq_prefetch_iff.mpr hpre)
    refine ⟨by rw [show reply.response.status = _ from hstatus, hv]; rfl, ?_,
      by rw [show reply.hits = _ from hhits, hv]; rfl⟩
    have hanswers := Verdict.response_answers (c.verdict m r s) (r.method = "HEAD")
    rw [← serve_response hpath hmethod] at hanswers
    exact hanswers.untold (by rw [hv]; exact .inl rfl)
  · have hv : c.verdict m r s = .ok (.ignored (client r.toCount)) := by
      rw [verdict_counted hsite fits]
      exact count_ignored (mt Visitor.classify_eq_prefetch_iff.mp hquiet) hclient
    exact ⟨by rw [show reply.response.status = _ from hstatus, hv]; rfl,
      by rw [show reply.hits = _ from hhits, hv]; rfl⟩

/-- That view as a preload, with a body that is no payload. -/
def preload : Request :=
  { accented with
    headers := ⟨"Purpose", Text.encode "prefetch".toList⟩ :: accented.headers
    body := Text.encode "\x7bnot json".toList }

/-- The preload is announced, and it addresses the one site. -/
theorem preload_announced :
    Http.requestHost preload.headers preload.target = some "a.example" ∧
      (oneSite.siteByHost "a.example").1 = .ok (some ⟨1, "a.example", {}⟩) ∧
      Visitor.AnnouncesPreload preload.headers := by
  decide +kernel

/-- Neither the flag nor the body keeps the preload from being passed over. -/
theorem passed_over_preload :
    preload.target.path = Text.encode "/count".toList ∧ preload.method ∈ ["GET", "HEAD", "POST"] ∧
      Http.requestHost preload.headers preload.target = some "a.example" ∧
      (oneSite.siteByHost "a.example").1 = .ok (some ⟨1, "a.example", {}⟩) ∧
      Visitor.AnnouncesPreload preload.headers ∧
      let c : Counter := ⟨Visitor.classify, fun _ => none⟩
      (c.serve ⟨0, 0⟩ preload oneSite).1.response.status = 200 := by
  obtain ⟨named, lookup, announced⟩ := preload_announced
  obtain ⟨hpre, -⟩ := passed_over_iff_fits Visitor.isRegistered (fun _ => none) ⟨0, 0⟩
    preload oneSite (by decide) (by decide) named lookup
  exact ⟨by decide, by decide, named, lookup, announced, ((hpre announced).mpr (by decide)).1⟩

/-- With one byte more than is read, the same preload is rejected. -/
theorem preload_oversized :
    let r : Request := { preload with body := List.replicate 2097153 0x78 }
    Http.requestHost r.headers r.target = some "a.example" ∧
      (oneSite.siteByHost "a.example").1 = .ok (some ⟨1, "a.example", {}⟩) ∧
      Visitor.AnnouncesPreload r.headers ∧
      let c : Counter := ⟨Visitor.classify, fun _ => none⟩
      (c.serve ⟨0, 0⟩ r oneSite).1.response.status = 400 := by
  intro r
  obtain ⟨named, lookup, announced⟩ := preload_announced
  have long : 2097152 < r.body.length := by
    rw [List.length_replicate]
    decide
  exact ⟨named, lookup, announced,
    (serve_oversized (r := r) (by decide) (by decide) named lookup long).1⟩

end Counter

end HitCounter
