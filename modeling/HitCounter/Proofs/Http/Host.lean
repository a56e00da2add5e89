import HitCounter.Http.Target
import HitCounter.Proofs.Http.Header
import HitCounter.Proofs.Text.Ascii
import HitCounter.Proofs.Text.Split

/-!
# The host that a request addresses

- **Texts for hosts** (`Http.HostIn`): a host stands alone, before a port or in brackets. Every text
  has exactly one host in it.
- **Sources** (`Http.HostSource`): the text is that of the `Host` header, or else of the target.
- **Targets** (`Http.Target.isVisible_host`): the host of an address can be written in a header.
- **Names** (`Http.requestHost_decided`): a request addresses the host in that text, in lower case,
  and is addressed again by that name. The letters may stand in any case, and a port may follow
  (`Http.requestHost_addresses`).
-/

namespace HitCounter.Http

open Text (Bytes)

/-! ## Texts for hosts -/

/-- The host in a text. -/
inductive HostIn : List Char → List Char → Prop where
  /-- It is all of the text. -/
  | alone {host : List Char} (unbracketed : host.head? ≠ some '[') (portless : ':' ∉ host) :
    HostIn host host
  /-- What follows the last colon is a port. -/
  | port {host port : List Char} (unbracketed : host.head? ≠ some '[') (last : ':' ∉ port) :
    HostIn (host ++ ':' :: port) host
  /-- What stands in brackets is the host, whatever follows. -/
  | bracketed {host rest : List Char} (inside : ']' ∉ host) :
    HostIn ('[' :: (host ++ ']' :: rest)) host
  /-- The brackets may be left open. -/
  | unclosed {host : List Char} (inside : ']' ∉ host) : HostIn ('[' :: host) host

/-- The text that names the host of a request: that of the `Host` header if it can be read, and
otherwise the host in the target. -/
inductive HostSource (headers : Headers) (target : Target) : String → Prop where
  | header {raw : String} (line : FirstText "host" headers raw) : HostSource headers target raw
  | target {raw : String} (unread : ∀ text, ¬ FirstText "host" headers text)
    (host : target.host = some raw) : HostSource headers target raw

variable {raw : String} {text host : List Char} {headers : Headers} {target : Target}

theorem free_of_notMem {x : Char} (h : x ∉ text) : ∀ c ∈ text, (c == x) = false :=
  fun _ hc => beq_eq_false_iff_ne.mpr fun heq => h (heq ▸ hc)

theorem exists_hostIn (text : List Char) : ∃ host, HostIn text host := by
  by_cases hbracket : text.head? = some '['
  · obtain ⟨rest, rfl⟩ := List.head?_eq_some_iff.mp hbracket
    by_cases hclosed : ']' ∈ rest
    · obtain ⟨host, more, rfl, inside⟩ := List.eq_append_cons_of_mem hclosed
      exact ⟨host, .bracketed inside⟩
    · exact ⟨rest, .unclosed hclosed⟩
  · by_cases hcolon : ':' ∈ text
    -- The last colon is the first one from behind.
    · obtain ⟨port, before, hreverse, last⟩ :=
        List.eq_append_cons_of_mem (List.mem_reverse.mpr hcolon)
      obtain rfl : text = before.reverse ++ ':' :: port.reverse := by
        rw [← List.reverse_reverse text, hreverse]
        simp
      refine ⟨before.reverse, .port (fun h => hbracket ?_) (by simpa using last)⟩
      rw [List.head?_append, h, Option.some_or]
    · exact ⟨text, .alone hbracket hcolon⟩

theorem HostIn.mem (h : HostIn text host) {c : Char} (hc : c ∈ host) : c ∈ text := by
  cases h with
  | alone => exact hc
  | port => exact List.mem_append_left _ hc
  | bracketed => exact List.mem_cons_of_mem _ (List.mem_append_left _ hc)
  | unclosed => exact List.mem_cons_of_mem _ hc

/-! ## Hosts of targets -/

theorem Target.suffix_of_afterScheme? {bs rest : Bytes} (h : Target.afterScheme? bs = some rest) :
    rest <:+ bs := by
  fun_induction Target.afterScheme? bs with
  | case1 => cases h
  | case2 more =>
    obtain rfl := Option.some.inj h
    exact List.suffix_append [0x3A, 0x2F, 0x2F] _
  | case3 b more _ ih => exact (ih h).trans (List.suffix_cons b more)

/-- The host of a target is that of an authority in it. -/
theorem Target.exists_authority_ofMain {main : Bytes} {query : Option Bytes} {host : String}
    (h : (Target.ofMain main query).host = some host) :
    ∃ authority, authority ⊆ main ∧ host = Target.hostOf authority := by
  unfold Target.ofMain at h
  split at h
  · cases h
  · split at h
    · rename_i rest hrest
      refine ⟨_, ?_, (Option.some.inj h).symm⟩
      exact fun b hb => (Target.suffix_of_afterScheme? hrest).subset (List.takeWhile_subset _ hb)
    · exact ⟨main, List.Subset.refl _, (Option.some.inj h).symm⟩

theorem Target.exists_authority {uri : Bytes} {host : String}
    (h : (Target.ofBytes uri).host = some host) :
    ∃ authority, authority ⊆ uri ∧ host = Target.hostOf authority := by
  have hbs : uri.takeWhile (· != 0x23) ⊆ uri := List.takeWhile_subset _
  unfold Target.ofBytes at h
  simp only at h
  split at h
  · rename_i hcut
    obtain ⟨authority, hsub, hhost⟩ := Target.exists_authority_ofMain h
    exact ⟨authority, fun b hb => hbs ((Text.isPrefix_of_splitFirst? hcut).subset (hsub hb)), hhost⟩
  · obtain ⟨authority, hsub, hhost⟩ := Target.exists_authority_ofMain h
    exact ⟨authority, fun b hb => hbs (hsub hb), hhost⟩

theorem Target.isVisible_hostOf {authority : Bytes} (h : ∀ b ∈ authority, isVisible b = true) :
    ∀ c ∈ (Target.hostOf authority).toList, Text.IsVisible c := by
  have hhostPort : ∀ b ∈ (authority.reverse.takeWhile (· != 0x40)).reverse, isVisible b = true :=
    fun b hb => h b (List.mem_reverse.mp (List.takeWhile_subset _ (List.mem_reverse.mp hb)))
  unfold Target.hostOf
  simp only
  split
  · have hclose : ∀ b ∈ [0x5D], isVisible b = true := List.forall_mem_singleton.mpr rfl
    refine isVisible_asciiText (List.all_eq_true.mpr (List.forall_mem_append.mpr ⟨?_, hclose⟩))
    exact fun b hb => hhostPort b (List.takeWhile_subset _ hb)
  · exact isVisible_asciiText (List.all_eq_true.mpr fun b hb =>
      hhostPort b (List.takeWhile_subset _ hb))

/-- The host of an address is visible, as the address is. -/
theorem Target.isVisible_host {uri : Bytes} (h : ∀ b ∈ uri, isVisible b = true) {host : String}
    (hhost : (Target.ofBytes uri).host = some host) : ∀ c ∈ host.toList, Text.IsVisible c := by
  obtain ⟨authority, hsub, rfl⟩ := Target.exists_authority hhost
  exact Target.isVisible_hostOf fun b hb => h b (hsub hb)

/-! ## Names -/

theorem hostSource_iff :
    HostSource headers target raw ↔ (headers.visible? "host" <|> target.host) = some raw := by
  constructor
  · rintro (line | ⟨unread, host⟩)
    · rw [Headers.visible?_eq_some_iff.mpr line]
      rfl
    · have hnone : headers.visible? "host" = none :=
        Option.eq_none_iff_forall_ne_some.mpr fun text h =>
          unread text (Headers.visible?_eq_some_iff.mp h)
      rw [hnone, host]
      rfl
  · intro h
    cases hvisible : headers.visible? "host" with
    | some text =>
      rw [hvisible] at h
      obtain rfl : text = raw := Option.some.inj h
      exact .header (Headers.visible?_eq_some_iff.mp hvisible)
    | none =>
      rw [hvisible] at h
      refine .target (fun text htext => ?_) h
      rw [← Headers.visible?_eq_some_iff, hvisible] at htext
      cases htext

theorem takeWhile_inside (inside : ']' ∉ host) (rest : List Char) :
    (host ++ rest).takeWhile (· != ']') = host ++ rest.takeWhile (· != ']') :=
  List.takeWhile_append_of_pos fun c hc => by
    rw [bne, free_of_notMem inside c hc]
    rfl

/-- **The host in the text** is addressed in lower case, unless it is empty. -/
theorem requestHost_of_source (hsource : HostSource headers target raw)
    (h : HostIn raw.toList host) :
    requestHost headers target =
      if host = [] then none else some (String.ofList (Text.lower host)) := by
  rw [hostSource_iff] at hsource
  unfold requestHost
  simp only [hsource, List.isEmpty_iff]
  generalize raw.toList = text at h
  cases h with
  | alone unbracketed portless =>
    split
    · exact absurd rfl unbracketed
    · rw [Text.beforeLast_free (free_of_notMem portless)]
  | @port _ port unbracketed last =>
    split
    · rename_i heq
      cases host with
      | nil => cases heq
      | cons => exact absurd (congrArg List.head? heq) unbracketed
    · rw [Text.beforeLast_append_cons (free_of_notMem last) rfl]
  | @bracketed _ rest inside => simp [takeWhile_inside inside]
  | unclosed inside =>
    have hall := takeWhile_inside inside []
    rw [List.append_nil] at hall
    simp [hall]

theorem requestHost_eq_some_iff {name : String} :
    requestHost headers target = some name ↔ ∃ raw host, HostSource headers target raw ∧
      HostIn raw.toList host ∧ host ≠ [] ∧ name = String.ofList (Text.lower host) := by
  constructor
  · intro h
    cases hraw : headers.visible? "host" <|> target.host with
    | none => simp [requestHost, hraw] at h
    | some raw =>
      have hsource := hostSource_iff.mpr hraw
      obtain ⟨host, hhost⟩ := exists_hostIn raw.toList
      rw [requestHost_of_source hsource hhost, Option.ite_none_left_eq_some,
        Option.some.injEq] at h
      exact ⟨raw, host, hsource, hhost, h.1, h.2.symm⟩
  · rintro ⟨raw, host, hsource, hhost, hne, rfl⟩
    rw [requestHost_of_source hsource hhost, if_neg hne]

/-- The target has no influence where the header can be read, and otherwise only by its host. -/
theorem requestHost_congr {target' : Target}
    (h : (∃ raw, FirstText "host" headers raw) ∨ target'.host = target.host) :
    requestHost headers target' = requestHost headers target := by
  obtain ⟨raw, line⟩ | hhost := h
  · obtain ⟨host, hhost⟩ := exists_hostIn raw.toList
    rw [requestHost_of_source (.header line) hhost, requestHost_of_source (.header line) hhost]
  · simp only [requestHost, hhost]

theorem HostSource.isVisible (h : HostSource headers target raw)
    (hvisible : ∀ raw, target.host = some raw → ∀ c ∈ raw.toList, Text.IsVisible c) :
    ∀ c ∈ raw.toList, Text.IsVisible c := by
  cases h with
  | header line => exact line.isVisible
  | target _ host => exact hvisible raw host

/-- **The host that a request addresses** is the one in the text that names it, in lower case, and
there is none where that is empty. The target says it only if the header does not. The name has no
capitals; in the header of another request it addresses the same host, unless it could be taken for
a host with a port or in brackets. That needs a target whose host is visible, as that of every
address is. -/
theorem requestHost_decided (headers : Headers) (target : Target) :
    (∀ name, requestHost headers target = some name ↔ ∃ raw host,
      HostSource headers target raw ∧ HostIn raw.toList host ∧ host ≠ [] ∧
        name = String.ofList (Text.lower host)) ∧
    (∀ target', (∃ raw, FirstText "host" headers raw) ∨ target'.host = target.host →
      requestHost headers target' = requestHost headers target) ∧
    (∀ name, requestHost headers target = some name →
      name ≠ "" ∧ ∀ c ∈ name.toList, c.isUpper = false) ∧
    ∀ name headers' target', requestHost headers target = some name →
      ':' ∉ name.toList → name.toList.head? ≠ some '[' →
      (∀ raw, target.host = some raw → ∀ c ∈ raw.toList, Text.IsVisible c) →
      FirstLine "host" headers' (Text.encode name.toList) →
        requestHost headers' target' = some name := by
  refine ⟨fun name => requestHost_eq_some_iff, fun target' => requestHost_congr,
    fun name h => ?_, fun name headers' target' h portless unbracketed hvisible line => ?_⟩
  · obtain ⟨raw, host, -, -, hne, rfl⟩ := requestHost_eq_some_iff.mp h
    rw [String.toList_ofList]
    refine ⟨fun hempty => hne ?_, fun c hc => ?_⟩
    · have hlist := congrArg String.toList hempty
      rw [String.toList_ofList] at hlist
      exact Text.lower_eq_nil_iff.mp hlist
    · obtain ⟨d, -, rfl⟩ := List.mem_map.mp hc
      exact Text.isUpper_toLower d
  · obtain ⟨raw, host, hsource, hhost, hne, rfl⟩ := requestHost_eq_some_iff.mp h
    rw [String.toList_ofList] at portless unbracketed line
    have hlower : ∀ c ∈ Text.lower host, Text.IsVisible c :=
      List.forall_mem_map.mpr fun c hc =>
        Text.isVisible_toLower.mpr (hsource.isVisible hvisible c (hhost.mem hc))
    have halone : HostIn (String.ofList (Text.lower host)).toList (Text.lower host) := by
      rw [String.toList_ofList]
      exact .alone unbracketed portless
    rw [requestHost_of_source (.header (line.firstText hlower)) halone,
      if_neg (mt Text.lower_eq_nil_iff.mp hne), Text.lower_lower]

/-- A request whose header cannot be read. -/
def unread : Headers := [⟨"Host", [0xC3, 0xA9]⟩]

/-- The address of such a request. -/
def counted : Bytes := Text.encode "https://Stats.Example.com:8081/count".toList

/-- The lines of a request for the host with this name. -/
def named : Headers := [⟨"Host", Text.encode "stats.example.com".toList⟩]

/-- The name that the address has, in the header of another request. -/
theorem requestHost_decided_counted :
    requestHost unread (Target.ofBytes counted) = some "stats.example.com" ∧
      requestHost named (Target.ofBytes []) = some "stats.example.com" ∧
      requestHost named (Target.ofBytes counted) = requestHost named (Target.ofBytes []) := by
  obtain ⟨hiff, -, -, hback⟩ := requestHost_decided unread (Target.ofBytes counted)
  obtain ⟨-, hsame, -, -⟩ := requestHost_decided named (Target.ofBytes [])
  have hvisible : ∀ b ∈ counted, isVisible b = true := by decide +kernel
  have hunread : ∀ text, ¬ FirstText "host" unread text := by
    simp only [← Headers.visible?_eq_some_iff, ← Option.eq_none_iff_forall_ne_some]
    decide +kernel
  have hcounted : requestHost unread (Target.ofBytes counted) = some "stats.example.com" := by
    refine (hiff _).mpr ⟨"Stats.Example.com", _, .target hunread (by decide +kernel),
      .alone ?_ ?_, ?_, ?_⟩ <;> decide +kernel
  have hline : FirstLine "host" named (Text.encode "stats.example.com".toList) := by
    rw [← Headers.get?_eq_some_iff]
    decide +kernel
  refine ⟨hcounted, ?_, hsame _ (.inl ⟨"stats.example.com", ?_⟩)⟩
  · exact hback _ named _ hcounted (by decide +kernel) (by decide +kernel)
      (fun _ => Target.isVisible_host hvisible) hline
  · rw [← Headers.visible?_eq_some_iff]
    decide +kernel

/-! ## Names in headers -/

/-- The text is the name of a host: it prints in ASCII, and neither ends before a port nor opens the
brackets of an address. -/
structure IsHostName (name : List Char) : Prop where
  nonempty : name ≠ []
  printable : ∀ c ∈ name, 0x20 ≤ c.toNat ∧ c.toNat ≤ 0x7E
  portless : ':' ∉ name
  unbracketed : name.head? ≠ some '['

/-- The value of a `Host` header for a name: its letters in any case, and perhaps a port. -/
inductive Addresses (name : List Char) : List Char → Prop where
  | host {spelled : List Char} (spells : Text.lower spelled = Text.lower name) :
    Addresses name spelled
  | hostPort {spelled port : List Char} (spells : Text.lower spelled = Text.lower name)
    (printable : ∀ c ∈ port, 0x20 ≤ c.toNat ∧ c.toNat ≤ 0x7E) (last : ':' ∉ port) :
    Addresses name (spelled ++ ':' :: port)

variable {name value : List Char}

/-- The name of a host is one in any case. -/
theorem isHostName_lower : IsHostName (Text.lower name) ↔ IsHostName name := by
  have hcolon (c : Char) : c.toLower = ':' ↔ c = ':' := Text.toLower_eq_iff (by decide)
  have hbracket (c : Char) : c.toLower = '[' ↔ c = '[' := Text.toLower_eq_iff (by decide)
  have hnonempty : Text.lower name ≠ [] ↔ name ≠ [] := not_congr Text.lower_eq_nil_iff
  have hprintable : (∀ c ∈ Text.lower name, 0x20 ≤ c.toNat ∧ c.toNat ≤ 0x7E) ↔
      ∀ c ∈ name, 0x20 ≤ c.toNat ∧ c.toNat ≤ 0x7E := by
    simp only [Text.lower, List.forall_mem_map, Text.toLower_printable]
  have hportless : ':' ∉ Text.lower name ↔ ':' ∉ name := by
    simp [Text.lower, hcolon]
  have hunbracketed : (Text.lower name).head? ≠ some '[' ↔ name.head? ≠ some '[' := by
    cases name <;> simp [Text.lower, hbracket]
  constructor
  · rintro ⟨h₁, h₂, h₃, h₄⟩
    exact ⟨hnonempty.mp h₁, hprintable.mp h₂, hportless.mp h₃, hunbracketed.mp h₄⟩
  · rintro ⟨h₁, h₂, h₃, h₄⟩
    exact ⟨hnonempty.mpr h₁, hprintable.mpr h₂, hportless.mpr h₃, hunbracketed.mpr h₄⟩

theorem IsHostName.of_lower_eq (h : IsHostName name) {spelled : List Char}
    (spells : Text.lower spelled = Text.lower name) : IsHostName spelled :=
  isHostName_lower.mp (spells ▸ isHostName_lower.mpr h)

/-- A header in which the name can be read addresses it, in lower case. -/
theorem requestHost_written (hheader : headers.get? "host" = some (Text.encode value))
    (hvalue : ∀ c ∈ value, 0x20 ≤ c.toNat ∧ c.toNat ≤ 0x7E) (hhost : HostIn value host)
    (hne : host ≠ []) (target : Target) :
    requestHost headers target = some (String.ofList (Text.lower host)) := by
  have line := (Headers.get?_eq_some_iff.mp hheader).firstText fun c hc => .inr (hvalue c hc)
  refine requestHost_eq_some_iff.mpr ⟨_, host, .header line, ?_, hne, rfl⟩
  rwa [String.toList_ofList]

/-- **The host in a header** for a name is the name in lower case. -/
theorem requestHost_addresses (hname : IsHostName name) (hvalue : Addresses name value)
    (hheader : headers.get? "host" = some (Text.encode value)) (target : Target) :
    requestHost headers target = some (String.ofList (Text.lower name)) := by
  cases hvalue with
  | host spells =>
    have h := hname.of_lower_eq spells
    rw [← spells]
    exact requestHost_written hheader h.printable (.alone h.unbracketed h.portless) h.nonempty
      target
  | @hostPort spelled port spells printable last =>
    have h := hname.of_lower_eq spells
    rw [← spells]
    refine requestHost_written hheader ?_ (.port h.unbracketed last) h.nonempty target
    refine List.forall_mem_append.mpr ⟨h.printable, List.forall_mem_cons.mpr ⟨?_, printable⟩⟩
    decide

end HitCounter.Http
