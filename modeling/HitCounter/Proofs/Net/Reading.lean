import HitCounter.Proofs.Net.Grammar

/-!
# Reading addresses

- **Runs** (`takeGroups_append`, `exists_of_takeGroups`): groups between colons are read as far as
  they go, and what is read is a run of the grammar.
- **Addresses** (`readAddress?_eq_some_iff`, `readSocket?_eq_some_iff`): an address is read from
  exactly its texts, and so is an address with a port. No text is both (`readAddress?_socket`).
- **Both** (`ofText?_eq_some_iff`): either is read between white space.
-/

namespace HitCounter.Net

open Numeric (Spells)
open Text (span_append)

variable {s t rest : List Char}

/-! ## Runs of groups -/

/-- No group goes on into the text, and no other group follows. -/
structure Stops (rest : List Char) : Prop where
  head : ∀ c ∈ rest.head?, isHexDigit c = false ∧ c ≠ '.'
  next : ∀ u, rest = ':' :: u → ∀ c ∈ u.head?, isHexDigit c = false

theorem stops_nil : Stops [] := ⟨nofun, nofun⟩

theorem stops_cons {c : Char} (hhex : isHexDigit c = false) (hpoint : c ≠ '.') (hcolon : c ≠ ':') :
    Stops (c :: rest) where
  head := by rintro _ ⟨⟩; exact ⟨hhex, hpoint⟩
  next := by rintro u ⟨⟩; exact absurd rfl hcolon

theorem stops_short : Stops (':' :: ':' :: rest) where
  head := by rintro _ ⟨⟩; decide
  next := by rintro u ⟨⟩ _ ⟨⟩; decide

theorem afterColon_false_eq_some_iff : afterColon false s = some t ↔ s = ':' :: t := by
  simp [afterColon, takeChar_eq_some_iff]

variable {room : Nat} {first old : Bool} {groups : List UInt16}

/-- No group is read where none starts. -/
theorem takeGroups_of_head
    (h : ∀ u, afterColon first s = some u → ∀ c ∈ u.head?, isHexDigit c = false) :
    takeGroups room first s = ([], false, s) := by
  cases room with
  | zero => rfl
  | succ room =>
    have hnone : (afterColon first s).bind takeIPv4 = none ∧
        (afterColon first s).bind takeGroup = none := by
      cases hafter : afterColon first s with
      | none => exact ⟨rfl, rfl⟩
      | some u =>
        exact ⟨takeIPv4_of_head fun c hc => isHexDigit_of_isDigit (h u hafter c hc),
          takeGroup_of_head (h u hafter)⟩
    simp only [takeGroups, hnone, ite_self]

theorem takeGroups_stops (h : Stops rest) : takeGroups room false rest = ([], false, rest) :=
  takeGroups_of_head fun u hu => h.next u (afterColon_false_eq_some_iff.mp hu)

/-- A group is read, and then the run goes on behind it. -/
theorem takeGroups_group {g : UInt16} (h : GroupText g t)
    (hrest : ∀ c ∈ rest.head?, isHexDigit c = false ∧ c ≠ '.')
    (hs : afterColon first s = some (t ++ rest)) :
    takeGroups (room + 1) first s =
      (g :: (takeGroups room false rest).1, (takeGroups room false rest).2) := by
  have hold : (if 0 < room then (afterColon first s).bind takeIPv4 else none) = none := by
    rw [hs, Option.bind_some, takeIPv4_group h hrest, ite_self]
  have hgroup : (afterColon first s).bind takeGroup = some (g, rest) := by
    rw [hs, Option.bind_some, takeGroup_append h fun c hc => (hrest c hc).1]
  simp only [takeGroups, hold, hgroup]

/-- **Runs** are read as far as they go. -/
theorem takeGroups_append (h : RunText old groups t) (hstop : Stops rest)
    (hroom : groups.length ≤ room) (hs : afterColon first s = some (t ++ rest)) :
    takeGroups room first s = (groups, old, rest) := by
  induction h generalizing room first s with
  | group text =>
    obtain ⟨room, rfl⟩ := Nat.exists_eq_add_of_le' hroom
    rw [List.length_singleton, takeGroups_group text hstop.head hs, takeGroups_stops hstop]
  | old ip =>
    obtain ⟨room, rfl⟩ := Nat.exists_eq_add_of_le' hroom
    have hread : (afterColon first s).bind takeIPv4 = some (ip, rest) := by
      rw [hs, Option.bind_some, takeIPv4_eq_some_iff]
      exact ⟨rfl, fun c hc => isHexDigit_of_isDigit (hstop.head c hc).1⟩
    have hpos : 0 < room + 1 := Nat.succ_pos room
    change takeGroups (room + 1 + 1) first s = _
    simp only [takeGroups, hread, hpos, ↓reduceIte]
  | @cons old g groups t u text more ih =>
    obtain ⟨room, rfl⟩ := Nat.exists_eq_add_of_le' hroom
    have hcolon : ∀ c ∈ (':' :: (u ++ rest)).head?, isHexDigit c = false ∧ c ≠ '.' := by
      rintro _ ⟨⟩
      decide
    rw [List.append_assoc, List.cons_append] at hs
    rw [List.length_cons, ← Nat.add_assoc, takeGroups_group text hcolon hs,
      ih (Nat.le_add_left _ _) (afterColon_false_eq_some_iff.mpr rfl)]

/-- Whatever is read is a run, or nothing. -/
theorem exists_of_takeGroups (h : takeGroups room first s = (groups, old, rest)) :
    groups.length ≤ room ∧ ((groups = [] ∧ old = false ∧ rest = s) ∨
      ∃ t, RunText old groups t ∧ afterColon first s = some (t ++ rest)) := by
  induction room generalizing first s groups with
  | zero =>
    obtain ⟨rfl, rfl, rfl⟩ : [] = groups ∧ false = old ∧ s = rest := by
      simpa [takeGroups] using h
    exact ⟨Nat.le_refl _, .inl ⟨rfl, rfl, rfl⟩⟩
  | succ room ih =>
    cases hold : if 0 < room then (afterColon first s).bind takeIPv4 else none with
    | some read =>
      obtain ⟨ip, after⟩ := read
      simp only [takeGroups, hold, Prod.mk.injEq] at h
      obtain ⟨rfl, rfl, rfl⟩ := h
      obtain ⟨hroom, hread⟩ := Option.ite_none_right_eq_some.mp hold
      obtain ⟨u, hu, hip⟩ := Option.bind_eq_some_iff.mp hread
      obtain ⟨rfl, -⟩ := takeIPv4_eq_some_iff.mp hip
      exact ⟨Nat.succ_le_succ hroom, .inr ⟨ip.text, .old ip, hu⟩⟩
    | none =>
      cases hgroup : (afterColon first s).bind takeGroup with
      | none =>
        simp only [takeGroups, hold, hgroup, Prod.mk.injEq] at h
        obtain ⟨rfl, rfl, rfl⟩ := h
        exact ⟨Nat.zero_le _, .inl ⟨rfl, rfl, rfl⟩⟩
      | some read =>
        obtain ⟨g, after⟩ := read
        obtain ⟨u, hu, htake⟩ := Option.bind_eq_some_iff.mp hgroup
        obtain ⟨t, text, rfl⟩ := exists_of_takeGroup htake
        rcases hmore : takeGroups room false after with ⟨more, ended, last⟩
        simp only [takeGroups, hold, hgroup, hmore, Prod.mk.injEq] at h
        obtain ⟨rfl, rfl, rfl⟩ := h
        obtain ⟨hlength, hcases⟩ := ih hmore
        refine ⟨Nat.succ_le_succ hlength, .inr ?_⟩
        obtain ⟨rfl, rfl, rfl⟩ | ⟨v, more, hv⟩ := hcases
        · exact ⟨t, .group text, hu⟩
        · obtain rfl := afterColon_false_eq_some_iff.mp hv
          exact ⟨t ++ ':' :: v, .cons text more, by rw [hu, List.append_assoc, List.cons_append]⟩

/-- What stands on one side of `::` is read as far as it goes. -/
theorem takeGroups_side (h : SideText old groups t) (hstop : Stops rest)
    (hroom : groups.length ≤ room) : takeGroups room true (t ++ rest) = (groups, old, rest) := by
  cases h with
  | nothing =>
    refine takeGroups_of_head fun u hu => ?_
    obtain rfl : rest = u := Option.some.inj hu
    exact fun c hc => (hstop.head c hc).1
  | run text => exact takeGroups_append text hstop hroom rfl

theorem exists_side_of_takeGroups (h : takeGroups room true s = (groups, old, rest)) :
    groups.length ≤ room ∧ ∃ t, SideText old groups t ∧ s = t ++ rest := by
  obtain ⟨hroom, ⟨rfl, rfl, rfl⟩ | ⟨t, text, hs⟩⟩ := exists_of_takeGroups h
  · exact ⟨hroom, [], .nothing, rfl⟩
  · exact ⟨hroom, t, .run text, Option.some.inj hs⟩

/-! ## Whole addresses -/

/-- **Addresses** of the new kind are read from each of their texts. -/
theorem takeIPv6_append {ip : IPv6} (h : IPv6Text ip t) (hstop : Stops rest) :
    takeIPv6 (t ++ rest) = some (ip, rest) := by
  have hlength := ip.length_groups
  cases h with
  | full text =>
    have hread := takeGroups_append text hstop hlength.le (rfl : afterColon true (t ++ rest) = _)
    simp only [takeIPv6, hread, hlength, ↓reduceDIte, Option.pure_def]
  | @short old head tail t u zeros before after hgroups =>
    rw [hgroups, List.length_append, List.length_append, List.length_replicate] at hlength
    have hhead := takeGroups_side before (stops_short : Stops (':' :: ':' :: (u ++ rest)))
      (by omega : head.length ≤ 8)
    have htail := takeGroups_side after hstop (by omega : tail.length ≤ 7 - head.length)
    have hzeros : 8 - head.length - tail.length = zeros + 1 := by omega
    have hshort : head.length ≠ 8 := by omega
    have hall : (head ++ (List.replicate (zeros + 1) 0 ++ tail)).length = 8 := by
      rw [← List.append_assoc, ← hgroups]
      exact ip.length_groups
    simp only [takeIPv6, List.append_assoc, List.cons_append, hhead, hshort, ↓reduceDIte,
      Bool.false_eq_true, ↓reduceIte, takeChar, Option.bind_eq_bind, Option.bind_some, htail,
      hzeros]
    rw [dif_pos hall, Option.pure_def, Option.some.injEq, Prod.mk.injEq, IPv6.mk.injEq, hgroups,
      List.append_assoc]
    exact ⟨rfl, rfl⟩

/-- Whatever is read as one is a text of it. -/
theorem exists_of_takeIPv6 {ip : IPv6} (h : takeIPv6 s = some (ip, rest)) :
    ∃ t, IPv6Text ip t ∧ s = t ++ rest := by
  rcases hhead : takeGroups 8 true s with ⟨head, ended, after⟩
  simp only [takeIPv6, hhead] at h
  split at h
  · rename_i hfull
    obtain ⟨rfl, rfl⟩ : ⟨head, hfull⟩ = ip ∧ after = rest := by simpa using h
    obtain ⟨-, ⟨rfl, -⟩ | ⟨t, text, hs⟩⟩ := exists_of_takeGroups hhead
    · exact absurd hfull (by decide)
    · exact ⟨t, .full text, Option.some.inj hs⟩
  · split at h
    · cases h
    · obtain ⟨hroom, t, before, rfl⟩ := exists_side_of_takeGroups hhead
      rename_i hshort hended
      obtain rfl : ended = false := by simpa using hended
      simp only [Option.bind_eq_bind, Option.bind_eq_some_iff, Prod.exists,
        takeChar_eq_some_iff] at h
      obtain ⟨_, _, rfl, _, after, rfl, h⟩ := h
      rcases htail : takeGroups (7 - head.length) true after with ⟨tail, old, last⟩
      obtain ⟨hroom', u, behind, rfl⟩ := exists_side_of_takeGroups htail
      simp only [htail] at h
      split at h
      · rename_i hall
        simp only [Option.pure_def, Option.some.injEq, Prod.mk.injEq] at h
        obtain ⟨rfl, rfl⟩ := h
        -- The other side leaves room for one group of zero at least.
        obtain ⟨zeros, hzeros⟩ : ∃ zeros, 8 - head.length - tail.length = zeros + 1 :=
          Nat.exists_eq_add_of_le' (by omega)
        have hgroups : head ++ List.replicate (8 - head.length - tail.length) 0 ++ tail =
            head ++ List.replicate (zeros + 1) 0 ++ tail := by rw [hzeros]
        exact ⟨t ++ ':' :: ':' :: u, .short before behind hgroups, by simp⟩
      · cases h

/-- No run starts with an address of the old kind when a colon follows its first group. -/
theorem takeIPv4_run (h : RunText old groups t) (hlong : 2 < groups.length) :
    takeIPv4 (t ++ rest) = none := by
  cases h with
  | group text => exact absurd hlong (by simp)
  | old ip => exact absurd hlong (by simp [IPv4.groups])
  | cons text =>
    rw [List.append_assoc]
    exact takeIPv4_group text (by rintro _ ⟨⟩; decide)

/-- No text of an address of the new kind starts with one of the old kind. -/
theorem takeIPv4_of_ipv6Text {ip : IPv6} (h : IPv6Text ip t) : takeIPv4 (t ++ rest) = none := by
  cases h with
  | full text => exact takeIPv4_run text (by rw [ip.length_groups]; decide)
  | short before =>
    rw [List.append_assoc]
    cases before with
    | nothing => exact takeIPv4_of_head (by rintro _ ⟨⟩; decide)
    | run text =>
      cases text with
      | group text => exact takeIPv4_group text (by rintro _ ⟨⟩; decide)
      | cons text =>
        rw [List.append_assoc]
        exact takeIPv4_group text (by rintro _ ⟨⟩; decide)

/-- A number is read as far as its digits go. -/
theorem takeNumber_append {limit n : Nat} (h : Spells 10 n t) (hn : n ≤ limit)
    (hrest : ∀ c ∈ rest.head?, c.isDigit = false) :
    takeNumber limit (t ++ rest) = some (n, rest) := by
  obtain ⟨htake, hdrop⟩ := span_append h.isDigit hrest
  simp only [takeNumber, htake, hdrop, h.ofDigits_eq]
  rw [if_neg]
  simpa [h.ne_nil] using hn

theorem exists_of_takeNumber {limit n : Nat} (h : takeNumber limit s = some (n, rest)) :
    n ≤ limit ∧ ∃ t, Spells 10 n t ∧ s = t ++ rest := by
  simp only [takeNumber, Option.ite_none_left_eq_some, not_or, Option.some.injEq, Prod.mk.injEq,
    List.isEmpty_iff, Nat.not_lt] at h
  obtain ⟨⟨hne, hn⟩, rfl, rfl⟩ := h
  exact ⟨hn, s.takeWhile Char.isDigit,
    Numeric.spells_ofDigits hne fun c hc => List.mem_takeWhile_imp hc,
    List.takeWhile_append_dropWhile.symm⟩

theorem skipZone_append {zone : List Char} (h : ZoneText zone) :
    skipZone (zone ++ ']' :: rest) = ']' :: rest := by
  cases h with
  | nothing => rfl
  | number bound text =>
    have hbracket : ∀ c ∈ (']' :: rest).head?, c.isDigit = false := by
      rintro _ ⟨⟩
      decide
    have hread := takeNumber_append text bound hbracket
    simp only [skipZone, List.cons_append, takeChar, ↓reduceIte, Option.bind_some, hread]

theorem exists_zone_of_skipZone (s : List Char) :
    ∃ zone, ZoneText zone ∧ s = zone ++ skipZone s := by
  unfold skipZone
  split
  · rename_i n rest h
    obtain ⟨⟨_, after⟩, hafter, hread⟩ := Option.bind_eq_some_iff.mp h
    obtain rfl := takeChar_eq_some_iff.mp hafter
    obtain ⟨bound, digits, text, rfl⟩ := exists_of_takeNumber hread
    exact ⟨'%' :: digits, .number bound text, rfl⟩
  · exact ⟨[], .nothing, rfl⟩

/-- A port is a colon and its digits. -/
theorem readPort?_eq_some_iff {port : UInt16} :
    readPort? s = some port ↔ ∃ digits, Spells 10 port.toNat digits ∧ s = ':' :: digits := by
  constructor
  · intro h
    simp only [readPort?, Option.bind_eq_bind, Option.bind_eq_some_iff, Prod.exists,
      takeChar_eq_some_iff, List.isEmpty_iff, Option.pure_def, Option.ite_none_right_eq_some,
      Option.some.injEq] at h
    obtain ⟨_, after, rfl, n, rest, hread, rfl, rfl⟩ := h
    obtain ⟨bound, digits, text, rfl⟩ := exists_of_takeNumber hread
    refine ⟨digits, ?_, by simp⟩
    rwa [UInt16.toNat_ofNat', Nat.mod_eq_of_lt (Nat.lt_succ_of_le bound)]
  · rintro ⟨digits, text, rfl⟩
    have hread : takeNumber 65535 (digits ++ []) = some (port.toNat, []) :=
      takeNumber_append text (Nat.le_of_lt_succ port.toNat_lt) nofun
    rw [List.append_nil] at hread
    simp only [readPort?, takeChar, ↓reduceIte, Option.bind_eq_bind, Option.bind_some, hread,
      List.isEmpty_nil, UInt16.ofNat_toNat, Option.pure_def]

/-- What starts with an address of the old kind is no text of the new kind. -/
theorem takeIPv6_ipv4Text (ip : IPv4) (hrest : ∀ c ∈ rest.head?, c.isDigit = false) :
    takeIPv6 (ip.text ++ rest) = none := by
  have hread : takeIPv4 (ip.text ++ rest) = some (ip, rest) :=
    takeIPv4_eq_some_iff.mpr ⟨rfl, hrest⟩
  have hrun : takeGroups 8 true (ip.text ++ rest) = (ip.groups, true, rest) := by
    simp [takeGroups, afterColon, hread]
  simp [takeIPv6, hrun, IPv4.groups]

/-- A text that starts with a bracket is none of either kind. -/
theorem takeIPv6_bracket : takeIPv6 ('[' :: s) = none := by
  have hrun : takeGroups 8 true ('[' :: s) = ([], false, '[' :: s) := by
    refine takeGroups_of_head fun u hu => ?_
    obtain rfl : '[' :: s = u := Option.some.inj hu
    rintro _ ⟨⟩
    decide
  simp [takeIPv6, hrun, takeChar]

theorem takeIPv4_bracket : takeIPv4 ('[' :: s) = none :=
  takeIPv4_of_head (by rintro _ ⟨⟩; decide)

/-- **An address** is read from exactly its texts. -/
theorem readAddress?_eq_some_iff {a : Address} : readAddress? s = some a ↔ AddressText a s := by
  constructor
  · intro h
    unfold readAddress? at h
    split at h
    · rename_i ip hread
      cases h
      obtain ⟨rfl, -⟩ := takeIPv4_eq_some_iff.mp hread
      exact List.append_nil _
    · split at h
      · rename_i ip hread
        cases h
        obtain ⟨t, text, rfl⟩ := exists_of_takeIPv6 hread
        rwa [AddressText, List.append_nil]
      · cases h
  · intro h
    cases a with
    | v4 ip =>
      obtain rfl : s = ip.text := h
      have hread : takeIPv4 ip.text = some (ip, []) :=
        takeIPv4_eq_some_iff.mpr ⟨(List.append_nil _).symm, nofun⟩
      simp only [readAddress?, hread]
    | v6 ip =>
      have hold : takeIPv4 (s ++ []) = none := takeIPv4_of_ipv6Text h
      have hread := takeIPv6_append h stops_nil
      rw [List.append_nil] at hold hread
      simp only [readAddress?, hold, hread]

/-- **An address with a port** is read from exactly its texts. -/
theorem readSocket?_eq_some_iff {a : Address} {port : UInt16} :
    readSocket? s = some (a, port) ↔ SocketText a port s := by
  constructor
  · intro h
    unfold readSocket? at h
    split at h
    · rename_i ip after hread
      obtain ⟨rfl, -⟩ := takeIPv4_eq_some_iff.mp hread
      obtain ⟨_, hport, heq⟩ := Option.map_eq_some_iff.mp h
      cases heq
      obtain ⟨digits, number, rfl⟩ := readPort?_eq_some_iff.mp hport
      exact .v4 number
    · simp only [Option.bind_eq_bind, Option.bind_eq_some_iff, Prod.exists, takeChar_eq_some_iff,
        Option.pure_def, Option.some.injEq, Prod.mk.injEq] at h
      obtain ⟨_, inner, rfl, ip, after, hread, _, last, hzone, _, hport, rfl, rfl⟩ := h
      obtain ⟨t, text, rfl⟩ := exists_of_takeIPv6 hread
      obtain ⟨zone, zoneText, hafter⟩ := exists_zone_of_skipZone after
      obtain ⟨digits, number, rfl⟩ := readPort?_eq_some_iff.mp hport
      rw [hafter, hzone]
      exact .v6 text zoneText number
  · intro h
    cases h with
    | @v4 ip port digits number =>
      have hread : takeIPv4 (ip.text ++ ':' :: digits) = some (ip, ':' :: digits) :=
        takeIPv4_eq_some_iff.mpr ⟨rfl, by rintro _ ⟨⟩; decide⟩
      have hport := readPort?_eq_some_iff.mpr ⟨digits, number, rfl⟩
      simp only [readSocket?, hread, hport, Option.map_some]
    | @v6 ip port t zone digits text zoneText number =>
      have hstop : Stops (zone ++ ']' :: ':' :: digits) := by
        cases zoneText with
        | nothing => exact stops_cons (by decide) (by decide) (by decide)
        | number => exact stops_cons (by decide) (by decide) (by decide)
      have hread := takeIPv6_append text hstop
      have hport := readPort?_eq_some_iff.mpr ⟨digits, number, rfl⟩
      simp only [readSocket?, takeIPv4_bracket, takeChar, ↓reduceIte, hread,
        skipZone_append zoneText, hport, Option.bind_eq_bind, Option.bind_some, Option.pure_def]

/-- What starts with a text with a port is no text without one. -/
theorem readAddress?_socket {a : Address} {port : UInt16} (h : SocketText a port s) :
    readAddress? (s ++ rest) = none := by
  cases h with
  | @v4 ip port digits number =>
    have hcolon : ∀ c ∈ (':' :: (digits ++ rest)).head?, c.isDigit = false := by
      rintro _ ⟨⟩
      decide
    have hread : takeIPv4 (ip.text ++ ':' :: (digits ++ rest)) =
        some (ip, ':' :: (digits ++ rest)) :=
      takeIPv4_eq_some_iff.mpr ⟨rfl, hcolon⟩
    simp only [List.append_assoc, List.cons_append, readAddress?, hread,
      takeIPv6_ipv4Text ip hcolon]
  | v6 => simp only [List.cons_append, readAddress?, takeIPv4_bracket, takeIPv6_bracket]

/-- **Any address** is read from exactly its texts, with a port and without, between white space. -/
theorem ofText?_eq_some_iff {a : Address} :
    Address.ofText? s = some a ↔
      AddressText a (Text.trim s) ∨ ∃ port, SocketText a port (Text.trim s) := by
  have hsocket : (readSocket? (Text.trim s)).map (·.1) = some a ↔
      ∃ port, SocketText a port (Text.trim s) := by
    simp only [Option.map_eq_some_iff, Prod.exists, exists_eq_right, exists_comm (α := Address),
      ← readSocket?_eq_some_iff]
  have hfirst : Address.ofText? s =
      (readAddress? (Text.trim s)).or ((readSocket? (Text.trim s)).map (·.1)) := by
    cases hread : readAddress? (Text.trim s) <;> simp [Address.ofText?, hread]
  rw [hfirst, Option.or_eq_some_iff, hsocket, readAddress?_eq_some_iff]
  refine or_congr_right ⟨And.right, fun hport => ⟨?_, hport⟩⟩
  obtain ⟨port, text⟩ := hport
  have hnone : readAddress? (Text.trim s ++ []) = none := readAddress?_socket text
  rwa [List.append_nil] at hnone

end HitCounter.Net
