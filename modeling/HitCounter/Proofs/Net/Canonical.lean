import HitCounter.Endpoint.Basic
import HitCounter.Proofs.Net.Reading
import HitCounter.Proofs.Text.Trim

/-!
# Canonical texts of addresses

- **Canonical texts** (`addressText_text`, `socketText_socketText`): what is written for an address
  is one of its texts, whichever groups of zero are left out.
- **Other texts** (`AddressText.isAddressChar`, `AddressText.punctuated`): the characters of
  addresses, and the punctuation that every address needs.
- **Round trip** (`ofText?_decided`): every address is read from what is written for it, and nothing
  but the texts of an address is read as one.
-/

namespace HitCounter.Net

open Numeric (Spells)

/-! ## Canonical texts -/

/-- The digits of a group are a text of it. -/
theorem groupText_toDigits (g : UInt16) : GroupText g (Nat.toDigits 16 g.toNat) := by
  have hspells : Spells 16 g.toNat (Nat.toDigits 16 g.toNat) := ⟨0, rfl⟩
  have hlower : Text.lower (Nat.toDigits 16 g.toNat) = Nat.toDigits 16 g.toNat := by
    have hsame := hspells.forall_mem (P := fun c => c.toLower = c) (by decide) (by decide)
    exact (List.map_congr_left hsame).trans (List.map_id _)
  refine ⟨?_, by rwa [hlower]⟩
  rw [Nat.length_toDigits_le_iff (by decide) (by decide)]
  exact g.toNat_lt

/-- Groups that are written between colons are a run. -/
theorem runText_groupsText (g : UInt16) (groups : List UInt16) :
    RunText false (g :: groups) (groupsText (g :: groups)) := by
  induction groups generalizing g with
  | nil =>
    have htext : groupsText [g] = Nat.toDigits 16 g.toNat := List.intercalate_singleton
    rw [htext]
    exact .group (groupText_toDigits g)
  | cons next groups ih =>
    have htext : groupsText (g :: next :: groups) =
        Nat.toDigits 16 g.toNat ++ ':' :: groupsText (next :: groups) := by
      simp [groupsText, List.intercalate_cons_cons]
    rw [htext]
    exact .cons (groupText_toDigits g) (ih next)

theorem sideText_groupsText (groups : List UInt16) : SideText false groups (groupsText groups) := by
  cases groups with
  | nil => exact .nothing
  | cons g groups => exact .run (runText_groupsText g groups)

/-- An address of the old kind in the last two groups. -/
theorem groups_mapped (high low : UInt16) :
    IPv4.groups ⟨(high / 256).toUInt8, high.toUInt8, (low / 256).toUInt8, low.toUInt8⟩ =
      [high, low] := by
  have hgroup (g : UInt16) : (g / 256).toUInt8.toUInt16 * 256 + g.toUInt8.toUInt16 = g := by
    have hlt := g.toNat_lt
    rw [← UInt16.toNat_inj]
    simp
    omega
  rw [IPv4.groups, hgroup, hgroup]

/-- What is found as the longest run of zeros is one. -/
theorem longestZeros_le (groups : List UInt16) :
    (longestZeros groups).2 ≤ leadingZeros (groups.drop (longestZeros groups).1) := by
  let IsRun (best : Nat × Nat) : Prop := best.2 ≤ leadingZeros (groups.drop best.1)
  refine List.foldlRecOn (motive := IsRun) (List.range groups.length) _ (Nat.zero_le _) ?_
  intro best hbest start _
  by_cases hlonger : best.2 < leadingZeros (groups.drop start)
  · simp only [hlonger, ↓reduceIte]
    exact Nat.le_refl _
  · simp only [hlonger, ↓reduceIte]
    exact hbest

/-- Zeros that a list starts with may be taken out of it. -/
theorem eq_replicate_append {groups : List UInt16} {size : Nat} (h : size ≤ leadingZeros groups) :
    groups = List.replicate size 0 ++ groups.drop size := by
  induction size generalizing groups with
  | zero => rfl
  | succ size ih =>
    cases groups with
    | nil => exact absurd h (Nat.not_succ_le_zero size)
    | cons g groups =>
      by_cases hg : g = 0
      · subst hg
        have hle : size ≤ leadingZeros groups := by simpa [leadingZeros] using h
        rw [List.drop_succ_cons, List.replicate_succ, List.cons_append, ← ih hle]
      · exact absurd h (by simp [leadingZeros, hg])

/-- An address that maps one of the old kind ends in its groups. -/
theorem groups_of_mapped? {ip : IPv6} {old : IPv4} (h : ip.mapped? = some old) :
    ip.groups = List.replicate 5 0 ++ 0xFFFF :: old.groups := by
  unfold IPv6.mapped? at h
  split at h
  · rename_i high low hgroups
    rw [hgroups, ← Option.some.inj h, groups_mapped]
    rfl
  · cases h

/-- The zeros that are left out stand where they were found. -/
theorem groups_of_longestZeros {groups : List UInt16} {start size : Nat}
    (h : longestZeros groups = (start, size)) :
    groups = groups.take start ++ List.replicate size 0 ++ groups.drop (start + size) := by
  have hle := longestZeros_le groups
  rw [h] at hle
  rw [← List.drop_drop, List.append_assoc, ← eq_replicate_append hle, List.take_append_drop]

/-- **Canonical texts** are texts of the address that they are written for. -/
theorem ipv6Text_text (ip : IPv6) : IPv6Text ip ip.text := by
  unfold IPv6.text
  split
  · rename_i old hold
    have hgroup : GroupText 0xFFFF "ffff".toList := groupText_toDigits 0xFFFF
    exact .short .nothing (.run (.cons hgroup (.old old))) (groups_of_mapped? hold)
  · rcases hzeros : longestZeros ip.groups with ⟨start, size⟩
    have hgroups := groups_of_longestZeros hzeros
    simp only
    split
    · rename_i hsize
      obtain ⟨zeros, rfl⟩ := Nat.exists_eq_add_of_le' (Nat.one_le_of_lt hsize)
      exact .short (sideText_groupsText _) (sideText_groupsText _) hgroups
    · have hne : ip.groups ≠ [] := by
        intro hnil
        exact absurd ip.length_groups (by rw [hnil]; decide)
      obtain ⟨g, groups, hcons⟩ := List.exists_cons_of_ne_nil hne
      have hrun := runText_groupsText g groups
      rw [← hcons] at hrun
      exact .full hrun

theorem addressText_text (a : Address) : AddressText a a.text := by
  cases a with
  | v4 ip => rfl
  | v6 ip => exact ipv6Text_text ip

theorem socketText_socketText (a : Address) (port : UInt16) :
    SocketText a port (a.socketText port) := by
  cases a with
  | v4 ip => exact .v4 (spells_decimal port.toNat)
  | v6 ip =>
    have htext : (Address.v6 ip).socketText port =
        '[' :: (ip.text ++ ([] ++ ']' :: ':' :: decimal port.toNat)) := rfl
    rw [htext]
    exact .v6 (ipv6Text_text ip) .nothing (spells_decimal port.toNat)

/-! ## Other texts -/

/-- A character of addresses. -/
def isAddressChar (c : Char) : Bool :=
  isHexDigit c || c == '.' || c == ':' || c == '[' || c == ']' || c == '%'

variable {s t : List Char}

theorem isAddressChar_of_isDigit {c : Char} (h : c.isDigit = true) : isAddressChar c = true := by
  simp [isAddressChar, isHexDigit, h]

theorem isAddressChar_of_isHexDigit {c : Char} (h : isHexDigit c = true) :
    isAddressChar c = true := by
  simp [isAddressChar, h]

theorem isBlank_of_isAddressChar {c : Char} (h : isAddressChar c = true) :
    Text.isBlank c = false := by
  simp only [isAddressChar, Bool.or_eq_true, beq_iff_eq] at h
  rcases h with ((((hhex | rfl) | rfl) | rfl) | rfl) | rfl
  · exact forall_isHexDigit (P := fun c => Text.isBlank c = false) (by decide) hhex
  all_goals decide

theorem IPv4.isAddressChar_text (ip : IPv4) : ∀ c ∈ ip.text, isAddressChar c = true := by
  have hnumber (n : Nat) : ∀ c ∈ decimal n, isAddressChar c = true := fun c hc =>
    isAddressChar_of_isDigit ((spells_decimal n).isDigit c hc)
  have hpoint : isAddressChar '.' = true := by decide
  simp only [IPv4.text, List.cons_append, List.append_assoc, List.forall_mem_append,
    List.forall_mem_cons]
  exact ⟨hnumber _, hpoint, hnumber _, hpoint, hnumber _, hpoint, hnumber _⟩

theorem RunText.isAddressChar {old : Bool} {groups : List UInt16} (h : RunText old groups t) :
    ∀ c ∈ t, isAddressChar c = true := by
  induction h with
  | group text => exact fun c hc => isAddressChar_of_isHexDigit (text.isHexDigit c hc)
  | old ip => exact ip.isAddressChar_text
  | cons text _ ih =>
    rw [List.forall_mem_append, List.forall_mem_cons]
    exact ⟨fun c hc => isAddressChar_of_isHexDigit (text.isHexDigit c hc), by decide, ih⟩

theorem SideText.isAddressChar {old : Bool} {groups : List UInt16} (h : SideText old groups t) :
    ∀ c ∈ t, isAddressChar c = true := by
  cases h with
  | nothing => exact fun c hc => absurd hc List.not_mem_nil
  | run text => exact text.isAddressChar

theorem IPv6Text.isAddressChar {ip : IPv6} (h : IPv6Text ip t) :
    ∀ c ∈ t, isAddressChar c = true := by
  cases h with
  | full text => exact text.isAddressChar
  | short before after =>
    simp only [List.forall_mem_append, List.forall_mem_cons]
    exact ⟨before.isAddressChar, by decide, by decide, after.isAddressChar⟩

/-- Addresses have no other characters. -/
theorem AddressText.isAddressChar {a : Address} (h : AddressText a t) :
    ∀ c ∈ t, isAddressChar c = true := by
  cases a with
  | v4 ip =>
    obtain rfl : t = ip.text := h
    exact ip.isAddressChar_text
  | v6 ip => exact IPv6Text.isAddressChar h

theorem SocketText.isAddressChar {a : Address} {port : UInt16} (h : SocketText a port t) :
    ∀ c ∈ t, isAddressChar c = true := by
  have hnumber {n : Nat} {digits : List Char} (number : Spells 10 n digits) :
      ∀ c ∈ digits, Net.isAddressChar c = true := fun c hc =>
    isAddressChar_of_isDigit (number.isDigit c hc)
  cases h with
  | @v4 ip _ _ number =>
    simp only [List.forall_mem_append, List.forall_mem_cons]
    exact ⟨ip.isAddressChar_text, by decide, hnumber number⟩
  | @v6 _ _ _ zone _ text zoneText number =>
    have hzone : ∀ c ∈ zone, Net.isAddressChar c = true := by
      cases zoneText with
      | nothing => exact fun c hc => absurd hc List.not_mem_nil
      | number _ text => exact List.forall_mem_cons.mpr ⟨by decide, hnumber text⟩
    simp only [List.forall_mem_append, List.forall_mem_cons]
    exact ⟨by decide, text.isAddressChar, hzone, by decide, by decide, hnumber number⟩

/-- A run has a point, or a colon between any two groups. -/
theorem RunText.punctuated {old : Bool} {groups : List UInt16} (h : RunText old groups t) :
    '.' ∈ t ∨ groups.length ≤ t.count ':' + 1 := by
  induction h with
  | group => exact .inr (Nat.le_add_left _ _)
  | old ip => exact .inl (by simp [IPv4.text])
  | @cons _ _ groups t u _ _ ih =>
    rcases ih with hpoint | hcolons
    · exact .inl (by simp [hpoint])
    · right
      rw [List.length_cons, List.count_append, List.count_cons_self]
      omega

/-- An address has a point or two colons. -/
theorem AddressText.punctuated {a : Address} (h : AddressText a t) :
    '.' ∈ t ∨ 2 ≤ t.count ':' := by
  cases a with
  | v4 ip =>
    obtain rfl : t = ip.text := h
    exact .inl (by simp [IPv4.text])
  | v6 ip =>
    cases h with
    | full text =>
      rcases text.punctuated with hpoint | hcolons
      · exact .inl hpoint
      · rw [ip.length_groups] at hcolons
        exact .inr (by omega)
    | short =>
      right
      rw [List.count_append, List.count_cons_self, List.count_cons_self]
      omega

/-- An address with a port has a point or a bracket. -/
theorem SocketText.punctuated {a : Address} {port : UInt16} (h : SocketText a port t) :
    '.' ∈ t ∨ '[' ∈ t := by
  cases h with
  | v4 => exact .inl (by simp [IPv4.text])
  | v6 => exact .inr List.mem_cons_self

variable {a : Address} {port : UInt16} {c : Char}

/-- Nothing that can be no part of an address may follow one. -/
theorem AddressText.not_followed (h : AddressText a t) (hhex : isHexDigit c = false)
    (hpoint : c ≠ '.') (hcolon : c ≠ ':') :
    readAddress? (t ++ c :: s) = none ∧ readSocket? (t ++ c :: s) = none := by
  cases a with
  | v4 ip =>
    obtain rfl : t = ip.text := h
    have hdigit : ∀ d ∈ (c :: s).head?, d.isDigit = false := by
      rintro _ ⟨⟩
      exact isHexDigit_of_isDigit hhex
    have hread : takeIPv4 (ip.text ++ c :: s) = some (ip, c :: s) :=
      takeIPv4_eq_some_iff.mpr ⟨rfl, hdigit⟩
    have hport : readPort? (c :: s) = none := by simp [readPort?, takeChar, hcolon]
    constructor
    · simp only [readAddress?, hread, takeIPv6_ipv4Text ip hdigit]
    · simp only [readSocket?, hread, hport, Option.map_none]
  | v6 ip =>
    have hold : takeIPv4 (t ++ c :: s) = none := takeIPv4_of_ipv6Text h
    have hstop : Stops (c :: s) := stops_cons hhex hpoint hcolon
    have hread := takeIPv6_append h hstop
    have hbracket : takeChar '[' (t ++ c :: s) = none := by
      cases hchar : takeChar '[' (t ++ c :: s) with
      | none => rfl
      | some read =>
        rw [takeChar_eq_some_iff.mp hchar, takeIPv6_bracket] at hread
        cases hread
    constructor
    · simp only [readAddress?, hold, hread]
    · simp only [readSocket?, hold, hbracket, Option.bind_eq_bind, Option.bind_none]

/-- Nothing but a digit may follow a port. -/
theorem SocketText.not_followed (h : SocketText a port t) (hdigit : c.isDigit = false) :
    readSocket? (t ++ c :: s) = none := by
  have hport {digits : List Char} (number : Spells 10 port.toNat digits) :
      readPort? (':' :: (digits ++ c :: s)) = none := by
    have hread : takeNumber 65535 (digits ++ c :: s) = some (port.toNat, c :: s) :=
      takeNumber_append number (Nat.le_of_lt_succ port.toNat_lt) (by rintro _ ⟨⟩; exact hdigit)
    simp [readPort?, takeChar, hread]
  cases h with
  | @v4 ip _ digits number =>
    have hread : takeIPv4 (ip.text ++ ':' :: (digits ++ c :: s)) =
        some (ip, ':' :: (digits ++ c :: s)) :=
      takeIPv4_eq_some_iff.mpr ⟨rfl, by rintro _ ⟨⟩; decide⟩
    simp only [List.append_assoc, List.cons_append, readSocket?, hread, hport number,
      Option.map_none]
  | @v6 ip _ t zone digits text zoneText number =>
    have hstop : Stops (zone ++ ']' :: ':' :: (digits ++ c :: s)) := by
      cases zoneText with
      | nothing => exact stops_cons (by decide) (by decide) (by decide)
      | number => exact stops_cons (by decide) (by decide) (by decide)
    have hread := takeIPv6_append text hstop
    simp only [List.append_assoc, List.cons_append, readSocket?, takeIPv4_bracket, takeChar,
      ↓reduceIte, hread, skipZone_append zoneText, hport number, Option.bind_eq_bind,
      Option.bind_some, Option.bind_none]

/-! ## Round trip -/

variable {before after : List Char}

/-- White space around a text has no say in it. -/
theorem ofText?_padded (hbefore : Text.IsPadding before) (ht : Text.Tight t)
    (hafter : Text.IsPadding after) :
    Address.ofText? (before ++ t ++ after) =
      (readAddress? t).or ((readSocket? t).map (·.1)) := by
  rw [Address.ofText?, Text.trim_padded hbefore ht hafter]
  cases readAddress? t <;> rfl

theorem ofText?_eq_none (h : ∀ a, ¬ AddressText a (Text.trim s))
    (hsocket : ∀ a port, ¬ SocketText a port (Text.trim s)) : Address.ofText? s = none := by
  cases hread : Address.ofText? s with
  | none => rfl
  | some a =>
    obtain htext | ⟨port, htext⟩ := ofText?_eq_some_iff.mp hread
    · exact absurd htext (h a)
    · exact absurd htext (hsocket a port)

/-- A text with any other character is no address, unless that is white space around it. -/
theorem ofText?_of_foreign (hc : c ∈ Text.trim s) (hforeign : isAddressChar c = false) :
    Address.ofText? s = none := by
  have hno {t : List Char} (hall : ∀ c ∈ t, isAddressChar c = true) : c ∉ t := fun hmem =>
    absurd (hall c hmem) (by simp [hforeign])
  exact ofText?_eq_none (fun _ text => hno text.isAddressChar hc)
    fun _ _ text => hno text.isAddressChar hc

theorem mem_trim (hc : c ∈ s) (hblank : Text.isBlank c = false) : c ∈ Text.trim s := by
  obtain ⟨-, before, after, hbefore, hafter, hs⟩ := Text.exists_padding s
  rw [hs, List.mem_append, List.mem_append] at hc
  rcases hc with (hc | hc) | hc
  · exact absurd (hbefore c hc) (by simp [hblank])
  · exact hc
  · exact absurd (hafter c hc) (by simp [hblank])

/-- A port alone is no address. -/
theorem ofText?_bare (hbefore : Text.IsPadding before) (hafter : Text.IsPadding after)
    {digits : List Char} (hdigits : ∀ c ∈ digits, c.isDigit = true) :
    Address.ofText? (before ++ digits ++ after) = none ∧
      Address.ofText? (before ++ ':' :: digits ++ after) = none := by
  have hother {c : Char} (hc : c.isDigit = false) : c ∉ digits := fun hmem =>
    absurd (hdigits c hmem) (by simp [hc])
  have hcount : digits.count ':' = 0 := List.count_eq_zero.mpr (hother (by decide))
  have hnone {t : List Char} (hchars : ∀ c ∈ t, isAddressChar c = true) (hpoint : '.' ∉ t)
      (hbracket : '[' ∉ t) (hcolons : t.count ':' < 2) :
      Address.ofText? (before ++ t ++ after) = none := by
    have htight : Text.Tight t :=
      Text.tight_of_forall fun c hc => isBlank_of_isAddressChar (hchars c hc)
    apply ofText?_eq_none
    · intro a text
      rw [Text.trim_padded hbefore htight hafter] at text
      rcases text.punctuated with hmem | hmany
      · exact hpoint hmem
      · omega
    · intro a port text
      rw [Text.trim_padded hbefore htight hafter] at text
      rcases text.punctuated with hmem | hmem
      · exact hpoint hmem
      · exact hbracket hmem
  have hchars : ∀ c ∈ digits, isAddressChar c = true := fun c hc =>
    isAddressChar_of_isDigit (hdigits c hc)
  constructor
  · exact hnone hchars (hother (by decide)) (hother (by decide)) (by omega)
  · refine hnone (List.forall_mem_cons.mpr ⟨by decide, hchars⟩) ?_ ?_ ?_
    · simp [hother (by decide : '.'.isDigit = false)]
    · simp [hother (by decide : '['.isDigit = false)]
    · rw [List.count_cons_self]
      omega

/-- No address goes on with garbage, whether it has a port or not. -/
theorem ofText?_followed (hbefore : Text.IsPadding before) (hafter : Text.IsPadding after)
    (hlast : ∀ x ∈ (c :: s).getLast?, Text.isBlank x = false)
    (h : AddressText a t ∧ isHexDigit c = false ∧ c ≠ '.' ∧ c ≠ ':' ∨
      SocketText a port t ∧ c.isDigit = false) :
    Address.ofText? (before ++ (t ++ c :: s) ++ after) = none := by
  have hchars : ∀ x ∈ t, isAddressChar x = true := by
    rcases h with ⟨text, -⟩ | ⟨text, -⟩
    · exact text.isAddressChar
    · exact text.isAddressChar
  have hne : t ≠ [] := by
    rintro rfl
    rcases h with ⟨text, -⟩ | ⟨text, -⟩
    · simpa using text.punctuated
    · simpa using text.punctuated
  have htight : Text.Tight (t ++ c :: s) := by
    constructor
    · obtain ⟨x, t, rfl⟩ := List.exists_cons_of_ne_nil hne
      rintro _ ⟨⟩
      exact isBlank_of_isAddressChar (hchars x List.mem_cons_self)
    · rw [List.getLast?_append, List.getLast?_cons, Option.some_or, ← List.getLast?_cons]
      exact hlast
  rw [ofText?_padded hbefore htight hafter]
  rcases h with ⟨text, hhex, hpoint, hcolon⟩ | ⟨text, hdigit⟩
  · obtain ⟨haddress, hsocket⟩ := text.not_followed (s := s) hhex hpoint hcolon
    rw [haddress, hsocket]
    rfl
  · rw [readAddress?_socket text, text.not_followed hdigit]
    rfl

/-- **Round trip.** Every address is read from its canonical text, with any port or none and with
any white space around it, so the peer of a request is the address whose location is looked up. What
is read as an address is one of its texts, after trimming. So no list with commas is read as one,
no port alone, and nothing that goes on behind the text of one. -/
theorem ofText?_decided (a : Address) (port : UInt16) (hbefore : Text.IsPadding before)
    (hafter : Text.IsPadding after) :
    Address.ofText? (before ++ a.text ++ after) = some a ∧
    Address.ofText? (before ++ a.socketText port ++ after) = some a ∧
    (∀ (db : Visitor.LocationDatabase) (r : Request),
      db.geolocator r.toCount.peer = db.locate r.peer) ∧
    (∀ s b, Address.ofText? s = some b ↔
      AddressText b (Text.trim s) ∨ ∃ port, SocketText b port (Text.trim s)) ∧
    (∀ s, ',' ∈ s → Address.ofText? s = none) ∧
    (∀ digits, (∀ c ∈ digits, c.isDigit = true) →
      Address.ofText? (before ++ digits ++ after) = none ∧
        Address.ofText? (before ++ ':' :: digits ++ after) = none) ∧
    (∀ t c s, (∀ x ∈ (c :: s).getLast?, Text.isBlank x = false) →
      AddressText a t ∧ isHexDigit c = false ∧ c ≠ '.' ∧ c ≠ ':' ∨
        SocketText a port t ∧ c.isDigit = false →
      Address.ofText? (before ++ (t ++ c :: s) ++ after) = none) := by
  have htight {t : List Char} (hchars : ∀ c ∈ t, isAddressChar c = true) : Text.Tight t :=
    Text.tight_of_forall fun c hc => isBlank_of_isAddressChar (hchars c hc)
  have hread {before after : List Char} (hbefore : Text.IsPadding before)
      (hafter : Text.IsPadding after) (a : Address) :
      Address.ofText? (before ++ a.text ++ after) = some a := by
    rw [ofText?_padded hbefore (htight (addressText_text a).isAddressChar) hafter,
      readAddress?_eq_some_iff.mpr (addressText_text a)]
    rfl
  refine ⟨hread hbefore hafter a, ?_, fun db r => ?_, fun s b => ofText?_eq_some_iff,
    fun s hc => ofText?_of_foreign (mem_trim hc (by decide)) (by decide),
    fun digits hdigits => ofText?_bare hbefore hafter hdigits,
    fun t c s hlast htext => ofText?_followed hbefore hafter hlast htext⟩
  · have htext := socketText_socketText a port
    rw [ofText?_eq_some_iff, Text.trim_padded hbefore (htight htext.isAddressChar) hafter]
    exact .inr ⟨port, htext⟩
  · have hpeer := hread Text.isPadding_nil Text.isPadding_nil r.peer
    rw [List.nil_append, List.append_nil] at hpeer
    rw [Visitor.LocationDatabase.geolocator, Request.toCount, String.toList_ofList, hpeer,
      Option.bind_some]

theorem ofText?_decided_loopback :
    Text.IsPadding [' '] ∧
      Address.ofText? " [::1]:443".toList = some (.v6 ⟨[0, 0, 0, 0, 0, 0, 0, 1], rfl⟩) :=
  ⟨by decide, (ofText?_decided (.v6 ⟨[0, 0, 0, 0, 0, 0, 0, 1], rfl⟩) 443
    (by decide : Text.IsPadding [' ']) Text.isPadding_nil).2.1⟩

end HitCounter.Net
