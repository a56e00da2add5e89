import HitCounter.Net.Address
import HitCounter.Proofs.Numeric.Digits
import HitCounter.Proofs.Numeric.Integer
import HitCounter.Proofs.Text.Ascii
import HitCounter.Proofs.Text.Split
import Mathlib.Data.List.TakeWhile

/-!
# The grammar of addresses

The texts that stand for an address, apart from any way to read them.

- **Texts** (`AddressText`, `SocketText`): an address of the old kind has one text. One of the new
  kind is eight groups, or fewer around `::`; the last two may be an address of the old kind.
- **Parts** (`takeIPv4_eq_some_iff`, `takeGroup_append`, `exists_of_takeGroup`): the reader of an
  address of the old kind and that of a group take what the grammar says, and as much as there is.
-/

namespace HitCounter.Net

open Numeric (Spells)
open Text (span_append takeWhile_of_head head_dropWhile)

/-! ## Texts -/

/-- A group is one to four hexadecimal digits in either case. -/
def GroupText (g : UInt16) (t : List Char) : Prop :=
  t.length ≤ 4 ∧ Spells 16 g.toNat (Text.lower t)

/-- Groups between colons. The flag says whether an address of the old kind stands for the last
two. -/
inductive RunText : Bool → List UInt16 → List Char → Prop where
  | group {g : UInt16} {t : List Char} (text : GroupText g t) : RunText false [g] t
  | old (ip : IPv4) : RunText true ip.groups ip.text
  | cons {old : Bool} {g : UInt16} {groups : List UInt16} {t s : List Char} (text : GroupText g t)
      (more : RunText old groups s) : RunText old (g :: groups) (t ++ ':' :: s)

/-- What may stand on one side of `::`. -/
inductive SideText : Bool → List UInt16 → List Char → Prop where
  | nothing : SideText false [] []
  | run {old : Bool} {groups : List UInt16} {t : List Char} (text : RunText old groups t) :
    SideText old groups t

/-- The texts of an address: all groups, or those on the two sides of `::`, which stands for one
group of zero or more. -/
inductive IPv6Text (ip : IPv6) : List Char → Prop where
  | full {old : Bool} {t : List Char} (text : RunText old ip.groups t) : IPv6Text ip t
  | short {old : Bool} {head tail : List UInt16} {t u : List Char} {zeros : Nat}
      (before : SideText false head t) (after : SideText old tail u)
      (groups : ip.groups = head ++ List.replicate (zeros + 1) 0 ++ tail) :
    IPv6Text ip (t ++ ':' :: ':' :: u)

/-- The texts of an address of either version. -/
def AddressText : Address → List Char → Prop
  | .v4 ip, t => t = ip.text
  | .v6 ip, t => IPv6Text ip t

/-- A zone of an address: nothing, or a number of 32 bits after a percent sign. -/
inductive ZoneText : List Char → Prop where
  | nothing : ZoneText []
  | number {n : Nat} {digits : List Char} (bound : n ≤ 4294967295) (text : Spells 10 n digits) :
    ZoneText ('%' :: digits)

/-- The texts of an address with a port. -/
inductive SocketText : Address → UInt16 → List Char → Prop where
  | v4 {ip : IPv4} {port : UInt16} {digits : List Char} (number : Spells 10 port.toNat digits) :
    SocketText (.v4 ip) port (ip.text ++ ':' :: digits)
  | v6 {ip : IPv6} {port : UInt16} {t zone digits : List Char} (text : IPv6Text ip t)
      (zoneText : ZoneText zone) (number : Spells 10 port.toNat digits) :
    SocketText (.v6 ip) port ('[' :: (t ++ (zone ++ ']' :: ':' :: digits)))

variable {s t rest : List Char}

/-! ## Numbers -/

theorem takeChar_eq_some_iff {c : Char} {u : Unit} :
    takeChar c s = some (u, rest) ↔ s = c :: rest := by
  cases s with
  | nil => simp [takeChar]
  | cons d s => by_cases hd : d = c <;> simp [takeChar, hd]

/-- The digits of a number do not start with a zero, unless the number is zero. -/
theorem decimal_head (n : Nat) : (decimal n).head? = some '0' → n = 0 := by
  have hboth : decimal n ≠ [] ∧ ((decimal n).head? = some '0' → n = 0) := by
    unfold decimal
    induction n using Numeric.toDigits_induction with
    | single d hd =>
      have hzero : ∀ d < 10, d.digitChar = '0' → d = 0 := by decide
      exact ⟨List.cons_ne_nil _ _, fun hhead => hzero d hd (Option.some.inj hhead)⟩
    | more n s hn ih d hd =>
      refine ⟨by simp, fun hhead => ?_⟩
      obtain ⟨c, s, rfl⟩ := List.exists_cons_of_ne_nil ih.1
      have := ih.2 hhead
      omega
  exact hboth.2

theorem spells_decimal (n : Nat) : Spells 10 n (decimal n) := ⟨0, rfl⟩

/-- A number of eight bits has one text. -/
theorem takeOctet_eq_some_iff {b : UInt8} :
    takeOctet s = some (b, rest) ↔
      s = decimal b.toNat ++ rest ∧ ∀ c ∈ rest.head?, c.isDigit = false := by
  constructor
  · intro h
    simp only [takeOctet, Option.ite_none_left_eq_some, not_or, Option.some.injEq,
      Prod.mk.injEq, List.isEmpty_iff, Nat.not_lt] at h
    obtain ⟨⟨hne, hshort, hpadded, hmost⟩, rfl, rfl⟩ := h
    refine ⟨?_, head_dropWhile _ _⟩
    have hdigits : ∀ c ∈ s.takeWhile Char.isDigit, c.isDigit = true := fun c hc =>
      List.mem_takeWhile_imp hc
    rw [UInt8.toNat_ofNat', Nat.mod_eq_of_lt (Nat.lt_succ_of_le hmost)]
    obtain ⟨zeros, htext⟩ := Numeric.spells_ofDigits hne hdigits
    -- A zero in front would be a leading one.
    have hzeros : zeros = 0 := by
      refine Nat.eq_zero_of_not_pos fun hpos => hpadded ?_
      have hlength := List.length_pos_iff.mpr (Nat.toDigits_ne_nil
        (n := Numeric.ofDigits (s.takeWhile Char.isDigit)) (b := 10))
      rw [htext, Bool.and_eq_true, decide_eq_true_iff, List.length_append, List.length_replicate,
        List.head?_append, List.head?_replicate, if_neg (by omega)]
      exact ⟨rfl, by omega⟩
    calc s = s.takeWhile Char.isDigit ++ s.dropWhile Char.isDigit :=
          List.takeWhile_append_dropWhile.symm
      _ = decimal (Numeric.ofDigits (s.takeWhile Char.isDigit)) ++ s.dropWhile Char.isDigit := by
          rw [hzeros, List.replicate_zero, List.nil_append] at htext
          exact congrArg (· ++ _) htext
  · rintro ⟨rfl, hrest⟩
    have hspells := spells_decimal b.toNat
    have hlt := b.toNat_lt
    obtain ⟨htake, hdrop⟩ := span_append hspells.isDigit hrest
    have hshort : (decimal b.toNat).length ≤ 3 :=
      (Nat.length_toDigits_le_iff (by decide) (by decide)).mpr (by omega)
    have hpadded : ((decimal b.toNat).head? == some '0' && decide (1 < (decimal b.toNat).length)) =
        false := by
      rw [Bool.and_eq_false_imp]
      intro hhead
      have hzero : b.toNat = 0 := decimal_head _ (beq_iff_eq.mp hhead)
      rw [hzero]
      rfl
    simp only [takeOctet, htake, hdrop, hspells.ofDigits_eq, UInt8.ofNat_toNat]
    rw [if_neg]
    simp [hpadded, hspells.ne_nil]
    omega

/-- An address of the old kind has one text, and is read as far as its last number goes. -/
theorem takeIPv4_eq_some_iff {ip : IPv4} :
    takeIPv4 s = some (ip, rest) ↔
      s = ip.text ++ rest ∧ ∀ c ∈ rest.head?, c.isDigit = false := by
  obtain ⟨a, b, c, d⟩ := ip
  have hpoint (rest : List Char) : ∀ c ∈ ('.' :: rest).head?, c.isDigit = false := by simp
  constructor
  · intro h
    simp only [takeIPv4, Option.bind_eq_bind, Option.bind_eq_some_iff, Prod.exists,
      takeOctet_eq_some_iff, takeChar_eq_some_iff, Option.pure_def, Option.some.injEq,
      Prod.mk.injEq, IPv4.mk.injEq] at h
    obtain ⟨_, _, ⟨rfl, -⟩, _, _, rfl, _, _, ⟨rfl, -⟩, _, _, rfl, _, _, ⟨rfl, -⟩, _, _, rfl, _, _,
      ⟨rfl, hrest⟩, ⟨rfl, rfl, rfl, rfl⟩, rfl⟩ := h
    exact ⟨by simp [IPv4.text], hrest⟩
  · rintro ⟨rfl, hrest⟩
    have hread (b : UInt8) (rest : List Char) :
        takeOctet (decimal b.toNat ++ '.' :: rest) = some (b, '.' :: rest) :=
      takeOctet_eq_some_iff.mpr ⟨rfl, hpoint rest⟩
    have hlast : takeOctet (decimal d.toNat ++ rest) = some (d, rest) :=
      takeOctet_eq_some_iff.mpr ⟨rfl, hrest⟩
    simp only [IPv4.text, List.append_assoc, List.cons_append, takeIPv4, hread, hlast, takeChar,
      Option.bind_eq_bind, Option.bind_some, ↓reduceIte, Option.pure_def]

/-- Nothing of the old kind starts with another character. -/
theorem takeIPv4_of_head (h : ∀ c ∈ s.head?, c.isDigit = false) : takeIPv4 s = none := by
  have hoctet : takeOctet s = none := by simp [takeOctet, takeWhile_of_head h]
  simp only [takeIPv4, hoctet, Option.bind_eq_bind, Option.bind_none]

/-! ## Groups -/

/-- What is decided of the characters up to `f` holds of hexadecimal digits. -/
theorem forall_isHexDigit {P : Char → Prop}
    (h : ∀ n < 0x67, isHexDigit (Char.ofNat n) = true → P (Char.ofNat n)) {c : Char}
    (hc : isHexDigit c = true) : P c := by
  have hlt : c.toNat < 0x67 := by
    have hmost : '9'.val.toNat = 0x39 ∧ 'f'.val.toNat = 0x66 ∧ 'F'.val.toNat = 0x46 :=
      ⟨rfl, rfl, rfl⟩
    simp only [isHexDigit, Char.isDigit, Char.le_def, UInt32.le_iff_toNat_le, Bool.or_eq_true,
      Bool.and_eq_true, decide_eq_true_eq, Char.toNat] at hc ⊢
    omega
  have hchar := h c.toNat hlt
  rw [Char.ofNat_toNat] at hchar
  exact hchar hc

/-- A hexadecimal digit is below sixteen, and is the digit of its value. -/
theorem digitChar_hexValue {c : Char} (h : isHexDigit c = true) :
    hexValue c < 16 ∧ (hexValue c).digitChar = c.toLower :=
  forall_isHexDigit (P := fun c => hexValue c < 16 ∧ (hexValue c).digitChar = c.toLower)
    (by decide) h

theorem isHexDigit_toLower (c : Char) : isHexDigit c.toLower = isHexDigit c :=
  (Text.toLower_related (fun c d => isHexDigit c = isHexDigit d) (fun _ => rfl) (by decide) c).symm

theorem isHexDigit_of_isDigit {c : Char} (h : isHexDigit c = false) : c.isDigit = false := by
  simp only [isHexDigit, Bool.or_eq_false_iff] at h
  exact h.1.1

theorem hexValue_toLower (c : Char) : hexValue c.toLower = hexValue c :=
  (Text.toLower_related (fun c d => hexValue c = hexValue d) (fun _ => rfl) (by decide) c).symm

namespace GroupText

variable {g : UInt16}

theorem isHexDigit (h : GroupText g t) : ∀ c ∈ t, isHexDigit c = true := by
  have hlower := h.2.forall_mem (P := (Net.isHexDigit · = true)) (by decide) (by decide)
  intro c hc
  rw [← isHexDigit_toLower]
  exact hlower _ (List.mem_map_of_mem hc)

theorem ne_nil (h : GroupText g t) : t ≠ [] := fun hnil =>
  h.2.ne_nil (Text.lower_eq_nil_iff.mpr hnil)

theorem value_eq (h : GroupText g t) : t.foldl (fun n c => n * 16 + hexValue c) 0 = g.toNat := by
  have hvalue : (Text.lower t).foldl (fun n c => n * 16 + hexValue c) 0 = g.toNat :=
    h.2.foldl_eq (by decide) (by decide)
  simpa only [Text.lower, List.foldl_map, hexValue_toLower] using hvalue

end GroupText

/-- One to four hexadecimal digits are a group. -/
theorem groupText_of_digits (hne : t ≠ []) (hshort : t.length ≤ 4)
    (h : ∀ c ∈ t, isHexDigit c = true) :
    GroupText (UInt16.ofNat (t.foldl (fun n c => n * 16 + hexValue c) 0)) t := by
  refine ⟨hshort, ?_⟩
  have hchars : (t.map hexValue).map Nat.digitChar = Text.lower t := by
    rw [List.map_map]
    exact List.map_congr_left fun c hc => (digitChar_hexValue (h c hc)).2
  have hspells := Numeric.spells_map_digitChar (by decide : 1 < 16) (t.map hexValue)
    (List.forall_mem_map.mpr fun c hc => (digitChar_hexValue (h c hc)).1) (by simpa using hne)
  rw [hchars, List.foldl_map] at hspells
  generalize t.foldl (fun n c => n * 16 + hexValue c) 0 = n at *
  have hlt : n < 2 ^ 16 := by
    rw [show 2 ^ 16 = 16 ^ 4 from rfl, ← Nat.length_toDigits_le_iff (by decide) (by decide)]
    obtain ⟨zeros, hzeros⟩ := hspells
    have hlength := congrArg List.length hzeros
    simp only [Text.lower, List.length_map, List.length_append] at hlength
    omega
  rwa [UInt16.toNat_ofNat', Nat.mod_eq_of_lt hlt]

/-- A group is read as far as its digits go. -/
theorem takeGroup_append {g : UInt16} (h : GroupText g t)
    (hrest : ∀ c ∈ rest.head?, isHexDigit c = false) : takeGroup (t ++ rest) = some (g, rest) := by
  obtain ⟨htake, hdrop⟩ := span_append h.isHexDigit hrest
  simp only [takeGroup, htake, hdrop, h.value_eq, UInt16.ofNat_toNat]
  rw [if_neg]
  simpa [h.ne_nil] using h.1

theorem exists_of_takeGroup {g : UInt16} (h : takeGroup s = some (g, rest)) :
    ∃ t, GroupText g t ∧ s = t ++ rest := by
  simp only [takeGroup, Option.ite_none_left_eq_some, not_or, Option.some.injEq, Prod.mk.injEq,
    List.isEmpty_iff, Nat.not_lt] at h
  obtain ⟨⟨hne, hshort⟩, rfl, rfl⟩ := h
  exact ⟨s.takeWhile isHexDigit,
    groupText_of_digits hne hshort fun c hc => List.mem_takeWhile_imp hc,
    List.takeWhile_append_dropWhile.symm⟩

theorem takeGroup_of_head (h : ∀ c ∈ s.head?, isHexDigit c = false) : takeGroup s = none := by
  simp [takeGroup, takeWhile_of_head h]

/-- A group is no start of an address of the old kind, unless a point follows. -/
theorem takeIPv4_group {g : UInt16} (h : GroupText g t)
    (hrest : ∀ c ∈ rest.head?, isHexDigit c = false ∧ c ≠ '.') : takeIPv4 (t ++ rest) = none := by
  cases hoctet : takeOctet (t ++ rest) with
  | none => simp only [takeIPv4, hoctet, Option.bind_eq_bind, Option.bind_none]
  | some read =>
    obtain ⟨b, after⟩ := read
    have hpoint : takeChar '.' after = none := by
      cases hchar : takeChar '.' after with
      | none => rfl
      | some read =>
        obtain rfl := takeChar_eq_some_iff.mp hchar
        obtain ⟨heq, -⟩ := takeOctet_eq_some_iff.mp hoctet
        -- The point would be in the group, or behind it, or digits would go on behind it.
        obtain ⟨more, hmore, hafter⟩ | ⟨more, hmore, hafter⟩ := List.append_eq_append_iff.mp heq
        · cases more with
          | nil => exact absurd rfl (hrest '.' (by rw [hafter]; rfl)).2
          | cons c more =>
            have hdigit := (spells_decimal b.toNat).isDigit c (by rw [hmore]; simp)
            have hhex := isHexDigit_of_isDigit (hrest c (by rw [hafter]; rfl)).1
            exact absurd hdigit (by simp [hhex])
        · cases more with
          | nil => exact absurd rfl (hrest '.' (by rw [← List.nil_append rest, ← hafter]; rfl)).2
          | cons c more =>
            obtain ⟨rfl, -⟩ := List.cons.inj hafter
            exact absurd (h.isHexDigit '.' (by rw [hmore]; simp)) (by decide)
    simp only [takeIPv4, hoctet, hpoint, Option.bind_eq_bind, Option.bind_some, Option.bind_none]

end HitCounter.Net
