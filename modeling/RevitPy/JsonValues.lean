import Mathlib.Algebra.Group.Int.Defs
import Mathlib.Data.List.Nodup
import RevitPy.ValueTexts

/-!
# Equality of JSON values

Numbers are equal by what they amount to, however they are written, and objects whatever
the order of their members.
-/

namespace RevitPy.Json

/-! ## Numbers -/

def ofDigits (text : List Char) : Nat := text.foldl (fun n c => 10 * n + (c.toNat - 48)) 0

/-- A numeral as `m * 10 ^ e`. -/
def decimal (literal : String) : Int × Int :=
  let negative := literal.toList.head? = some '-'
  let body := minus literal.toList
  let rest := body.dropWhile Char.isDigit
  let point := rest.head? = some '.'
  let part := if point then rest.tail.takeWhile Char.isDigit else []
  let rest := if point then rest.tail.dropWhile Char.isDigit else rest
  let power : Int := ofDigits (sign rest.tail)
  let power := if rest.tail.head? = some '-' then -power else power
  let m : Int := ofDigits (body.takeWhile Char.isDigit ++ part)
  (if negative then -m else m, power - part.length)

def sameNumber (a b : String) : Bool :=
  let (m, e) := decimal a
  let (n, f) := decimal b
  m * 10 ^ (e - f).toNat = n * 10 ^ (f - e).toNat

/-! ## Values -/

mutual

def same : Json → Json → Bool
  | .null, .null => true
  | .bool a, .bool b => a = b
  | .number a, .number b => sameNumber a b
  | .str a, .str b => a = b
  | .arr as, .arr bs => sameItems as bs
  | .obj ms, .obj ns => ms.length = ns.length && sameMembers ms ns
  | _, _ => false

def sameItems : List Json → List Json → Bool
  | [], [] => true
  | a :: as, b :: bs => same a b && sameItems as bs
  | _, _ => false

/-- Each member is one of the others. -/
def sameMembers : List (String × Json) → List (String × Json) → Bool
  | [], _ => true
  | (key, v) :: ms, ns =>
    (match get? ns key with
      | some w => same v w
      | none => false) && sameMembers ms ns

end

example : same (.obj [("a", .number "1"), ("b", .null)]) (.obj [("b", .null), ("a", .number "10.0e-1")]) = true := by decide
example : same (.obj [("a", .number "1"), ("b", .null)]) (.obj [("a", .bool true), ("b", .null)]) = false := by decide

mutual

/-- Numbers are numerals, and no two members of an object have one name. -/
def plain : Json → Bool
  | .number literal => numeral literal.toList
  | .arr items => plainItems items
  | .obj members => (members.map Prod.fst).Nodup && plainMembers members
  | .null | .bool _ | .str _ => true

def plainItems : List Json → Bool
  | [] => true
  | v :: vs => plain v && plainItems vs

def plainMembers : List (String × Json) → Bool
  | [] => true
  | (_, v) :: ms => plain v && plainMembers ms

end

theorem get?_of_mem {members : List (String × Json)} (distinct : (members.map Prod.fst).Nodup) {key : String} {v : Json}
    (member : (key, v) ∈ members) : get? members key = some v := by
  obtain ⟨before, after, shape⟩ := List.append_of_mem (List.mem_reverse.mpr member)
  have keys : (members.reverse.map Prod.fst).Nodup := by
    rw [List.map_reverse]
    exact List.nodup_reverse.mpr distinct
  rw [shape, List.map_append, List.map_cons] at keys
  refine List.lookup_eq_some_iff.mpr ⟨before, after, shape, fun item earlier => ?_⟩
  have other : key ≠ item.1 := fun same =>
    List.disjoint_of_nodup_append keys (List.mem_map_of_mem earlier) (same ▸ List.mem_cons_self)
  simpa using other

theorem plainMembers_iff (members : List (String × Json)) : plainMembers members = true ↔ ∀ item ∈ members, plain item.2 = true := by
  induction members with
  | nil => simp [plainMembers]
  | cons item members ih => simp [plainMembers, ih]

mutual

/-- A plain value is the same as itself. -/
theorem same_self : (v : Json) → plain v = true → same v v = true
  | .null, _ => rfl
  | .bool b, _ => by simp [same]
  | .number literal, _ => by simp [same, sameNumber]
  | .str value, _ => by simp [same]
  | .arr items, is_plain => by
    rw [same]
    exact sameItems_self items (by simpa [plain] using is_plain)
  | .obj members, is_plain => by
    simp only [plain, Bool.and_eq_true, decide_eq_true_eq] at is_plain
    simpa [same] using sameMembers_of_get? members members is_plain.2 fun item member => get?_of_mem is_plain.1 member

theorem sameItems_self : (items : List Json) → plainItems items = true → sameItems items items = true
  | [], _ => rfl
  | v :: vs, is_plain => by
    simp only [plainItems, Bool.and_eq_true] at is_plain
    simp only [sameItems, same_self v is_plain.1, sameItems_self vs is_plain.2, Bool.and_self]

theorem sameMembers_of_get? : (ms ns : List (String × Json)) → plainMembers ms = true → (∀ item ∈ ms, get? ns item.1 = some item.2) →
    sameMembers ms ns = true
  | [], _, _, _ => rfl
  | (key, v) :: ms, ns, is_plain, found => by
    simp only [plainMembers, Bool.and_eq_true] at is_plain
    have first : get? ns key = some v := found (key, v) List.mem_cons_self
    have others := sameMembers_of_get? ms ns is_plain.2 fun item member => found item (List.mem_cons_of_mem _ member)
    simp only [sameMembers, first, same_self v is_plain.1, others, Bool.and_self]

end

/-- The order of the members does not matter. -/
theorem same_of_perm {ms ns : List (String × Json)} (perm : ms.Perm ns) (distinct : (ns.map Prod.fst).Nodup)
    (is_plain : plainMembers ms = true) : same (.obj ms) (.obj ns) = true := by
  have members := sameMembers_of_get? ms ns is_plain fun item member => get?_of_mem distinct (perm.mem_iff.mp member)
  simp [same, perm.length_eq, members]

section
variable {d : Dialect}

mutual

/-- The numbers of a plain value are numbers in every dialect. -/
theorem proper_of_plain : (v : Json) → plain v = true → d.proper v = true
  | .null, _ | .bool _, _ | .str _, _ => by simp [Dialect.proper]
  | .number literal, is_plain => by
    rw [plain] at is_plain
    simp [Dialect.proper, Dialect.isNumber, is_plain]
  | .arr items, is_plain => by
    rw [Dialect.proper]
    exact properItems_of_plain items (by simpa [plain] using is_plain)
  | .obj members, is_plain => by
    simp only [plain, Bool.and_eq_true] at is_plain
    rw [Dialect.proper]
    exact properMembers_of_plain members is_plain.2

theorem properItems_of_plain : (items : List Json) → plainItems items = true → d.properItems items = true
  | [], _ => rfl
  | v :: vs, is_plain => by
    simp only [plainItems, Bool.and_eq_true] at is_plain
    simp only [Dialect.properItems, proper_of_plain v is_plain.1, properItems_of_plain vs is_plain.2, Bool.and_self]

theorem properMembers_of_plain : (members : List (String × Json)) → plainMembers members = true → d.properMembers members = true
  | [], _ => rfl
  | (_, v) :: ms, is_plain => by
    simp only [plainMembers, Bool.and_eq_true] at is_plain
    simp only [Dialect.properMembers, proper_of_plain v is_plain.1, properMembers_of_plain ms is_plain.2, Bool.and_self]

end
end

end RevitPy.Json
