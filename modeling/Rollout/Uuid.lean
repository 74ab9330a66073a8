import Rollout.Text.Hex

/-!
# Universally unique identifiers

An identifier is 128 bits. It is written as 32 lower-case hexadecimal digits in groups of 8, 4, 4, 4 and 12, and read
in four forms: the digits alone, the groups joined by hyphens, the groups in braces, and the groups behind `urn:uuid:`.
-/

namespace Rollout

structure Uuid where
  bits : BitVec 128
deriving DecidableEq, Inhabited

namespace Uuid

/-- The order of the bytes, the first byte weighing most. -/
instance : Ord Uuid := ⟨fun a b => compare a.bits.toNat b.bits.toNat⟩

def toList (u : Uuid) : List Char :=
  let ds := Text.Hex.digits 32 u.bits.toNat
  ds.take 8 ++ ['-'] ++ (ds.drop 8).take 4 ++ ['-'] ++ (ds.drop 12).take 4 ++ ['-'] ++
    (ds.drop 16).take 4 ++ ['-'] ++ ds.drop 20

instance : ToString Uuid := ⟨fun u => String.ofList u.toList⟩

/-- The sixteen bytes, the first one weighing most. -/
def bytes (u : Uuid) : List Nat := (List.range 16).map fun i => u.bits.toNat / Nat.pow 256 (15 - i) % 256

def ofBytes? (bytes : List Nat) : Option Uuid :=
  if bytes.length = 16 then some ⟨BitVec.ofNat 128 (bytes.foldl (fun n b => n * 256 + b) 0)⟩ else none

/-- Reads 32 hexadecimal digits. -/
def ofDigits? (ds : List Char) : Option Uuid :=
  if ds.length = 32 then (Text.Hex.value? ds).map fun n => ⟨BitVec.ofNat 128 n⟩ else none

/-- Reads digits in groups, with hyphens at the four places between them. -/
def ofGroups? (cs : List Char) : Option Uuid :=
  if cs.length = 36 ∧ [8, 13, 18, 23].all (fun i => cs[i]? = some '-') then
    ofDigits? (cs.take 8 ++ (cs.drop 9).take 4 ++ (cs.drop 14).take 4 ++ (cs.drop 19).take 4 ++ cs.drop 24)
  else none

def ofList? (cs : List Char) : Option Uuid :=
  match cs.length with
  | 32 => ofDigits? cs
  | 36 => ofGroups? cs
  | 38 => if cs.head? = some '\x7b' ∧ cs.getLast? = some '\x7d' then ofGroups? ((cs.drop 1).take 36) else none
  | 45 => if (cs.take 9).map Char.toLower = "urn:uuid:".toList then ofGroups? (cs.drop 9) else none
  | _ => none

def parse? (s : String) : Option Uuid := ofList? s.toList

/-! ## Reading back what was written -/

/-- The hyphens stand where they are looked for, and without them the digits are left. -/
theorem digits_toList (u : Uuid) :
    let cs := u.toList
    cs.length = 36 ∧ cs[8]? = some '-' ∧ cs[13]? = some '-' ∧ cs[18]? = some '-' ∧ cs[23]? = some '-' ∧
      cs.take 8 ++ (cs.drop 9).take 4 ++ (cs.drop 14).take 4 ++ (cs.drop 19).take 4 ++ cs.drop 24 =
        Text.Hex.digits 32 u.bits.toNat := by
  have hlength := Text.Hex.length_digits 32 u.bits.toNat
  simp only [toList]
  generalize Text.Hex.digits 32 u.bits.toNat = ds at hlength ⊢
  refine ⟨by simp [hlength], by simp [hlength], by simp [hlength], by simp [hlength], by simp [hlength], ?_⟩
  have hgroups : ds.take 8 ++ ((ds.drop 8).take 4 ++ ((ds.drop 12).take 4 ++ ((ds.drop 16).take 4 ++ ds.drop 20))) =
      ds := by
    have h₁ := List.take_append_drop 8 ds
    have h₂ := List.take_append_drop 4 (ds.drop 8)
    have h₃ := List.take_append_drop 4 (ds.drop 12)
    have h₄ := List.take_append_drop 4 (ds.drop 16)
    rw [List.drop_drop] at h₂ h₃ h₄
    rw [h₄, h₃, h₂, h₁]
  simpa [List.take_append, List.drop_append, hlength, List.drop_eq_nil_of_le] using hgroups

theorem ofList?_toList (u : Uuid) : ofList? u.toList = some u := by
  obtain ⟨hlength, h₁, h₂, h₃, h₄, hdigits⟩ := u.digits_toList
  have hgroups : ofGroups? u.toList = ofDigits? (Text.Hex.digits 32 u.bits.toNat) := by
    rw [ofGroups?, if_pos ⟨hlength, by simp [h₁, h₂, h₃, h₄]⟩, hdigits]
  have hread : ofList? u.toList = ofGroups? u.toList := by simp only [ofList?, hlength]
  have hlt : u.bits.toNat < Nat.pow 16 32 := u.bits.isLt
  rw [hread, hgroups, ofDigits?, if_pos (Text.Hex.length_digits 32 _), Text.Hex.value?_digits, Nat.mod_eq_of_lt hlt]
  simp

theorem toList_toString (u : Uuid) : (toString u).toList = u.toList := String.toList_ofList

theorem parse?_toString (u : Uuid) : parse? (toString u) = some u := by
  rw [parse?, toList_toString, ofList?_toList]

theorem length_toString (u : Uuid) : (toString u).toList.length = 36 := by
  rw [toList_toString]
  exact u.digits_toList.1

end Uuid

end Rollout
