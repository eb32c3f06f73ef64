import Widgetry.Proofs.Bag.Sorted
import Widgetry.Proofs.Json.RoundTrip

/-!
Proper values and what becomes of a value on its way through a text. Printing and reading a value
settles it: what is not finite becomes null, and members come in the order of their names. A proper
value is settled already.
-/

namespace Widgetry.Json

/-! ## Settled values -/

/-- What a value is once its text is read and its members are put in order. -/
def settled (v : Json) : Json := v.written.canonical

theorem settled_integer (n : Int) : settled (.number (.integer n)) = .number (.integer n) := rfl

theorem settled_float {x : Float} (h : x.isFinite = true) :
    settled (.number (.float x)) = .number (.float x) := by
  simp [settled, written, h, canonical]

theorem settled_infinite {x : Float} (h : x.isFinite = false) :
    settled (.number (.float x)) = .null := by
  simp [settled, written, h, canonical]

theorem canonicalItems_writtenItems (items : List Json) :
    canonicalItems (writtenItems items) = items.map settled := by
  induction items with
  | nil => rfl
  | cons item rest ih => rw [writtenItems, canonicalItems, ih, List.map_cons, settled]

theorem canonicalMembers_writtenMembers (members : List (String × Json)) :
    canonicalMembers (writtenMembers members)
      = members.map fun member => (member.1, member.2.settled) := by
  induction members with
  | nil => rfl
  | cons member rest ih =>
    rw [writtenMembers, canonicalMembers, ih, List.map_cons, settled]

theorem settled_array (items : List Json) : settled (.array items) = .array (items.map settled) := by
  rw [settled, written, canonical, canonicalItems_writtenItems]

theorem settled_object (members : List (String × Json)) :
    settled (.object members)
      = .object (Bag.sorted (members.map fun member => (member.1, member.2.settled))) := by
  rw [settled, written, canonical, canonicalMembers_writtenMembers]

/-! ## Proper values -/

mutual

/-- Numbers are finite and within 64 bits, and members stand in the order of their names. -/
def Proper : Json → Prop
  | .number (.integer n) => InWord n
  | .number (.float x) => x.isFinite = true
  | .array items => ProperItems items
  | .object members => Bag.Ordered members ∧ ProperMembers members
  | _ => True

def ProperItems : List Json → Prop
  | [] => True
  | item :: rest => Proper item ∧ ProperItems rest

def ProperMembers : List (String × Json) → Prop
  | [] => True
  | (_, value) :: rest => Proper value ∧ ProperMembers rest

end

mutual

theorem canonical_of_proper : (v : Json) → v.Proper → v.canonical = v
  | .null, _ | .bool _, _ | .number _, _ | .string _, _ => rfl
  | .array items, h => by rw [canonical, canonicalItems_of_proper items h]
  | .object members, h => by
    rw [canonical, canonicalMembers_of_proper members h.2, h.1.sorted_eq]

theorem canonicalItems_of_proper :
    (items : List Json) → ProperItems items → canonicalItems items = items
  | [], _ => rfl
  | item :: rest, h => by
    rw [canonicalItems, canonical_of_proper item h.1, canonicalItems_of_proper rest h.2]

theorem canonicalMembers_of_proper :
    (members : List (String × Json)) → ProperMembers members → canonicalMembers members = members
  | [], _ => rfl
  | (name, value) :: rest, h => by
    rw [canonicalMembers, canonical_of_proper value h.1, canonicalMembers_of_proper rest h.2]

end

mutual

theorem written_of_proper : (v : Json) → v.Proper → v.written = v
  | .null, _ | .bool _, _ | .number (.integer _), _ | .string _, _ => rfl
  | .number (.float x), h => if_pos h
  | .array items, h => by rw [written, writtenItems_of_proper items h]
  | .object members, h => by rw [written, writtenMembers_of_proper members h.2]

theorem writtenItems_of_proper :
    (items : List Json) → ProperItems items → writtenItems items = items
  | [], _ => rfl
  | item :: rest, h => by
    rw [writtenItems, written_of_proper item h.1, writtenItems_of_proper rest h.2]

theorem writtenMembers_of_proper :
    (members : List (String × Json)) → ProperMembers members → writtenMembers members = members
  | [], _ => rfl
  | (name, value) :: rest, h => by
    rw [writtenMembers, written_of_proper value h.1, writtenMembers_of_proper rest h.2]

end

theorem settled_of_proper {v : Json} (h : v.Proper) : v.settled = v := by
  rw [settled, written_of_proper v h, canonical_of_proper v h]

/-! ## The numbers of a value -/

mutual

/-- Whole numbers are within 64 bits. -/
def Sized : Json → Prop
  | .number (.integer n) => InWord n
  | .array items => SizedItems items
  | .object members => SizedMembers members
  | _ => True

def SizedItems : List Json → Prop
  | [] => True
  | item :: rest => Sized item ∧ SizedItems rest

def SizedMembers : List (String × Json) → Prop
  | [] => True
  | (_, value) :: rest => Sized value ∧ SizedMembers rest

end

mutual

/-- The numbers that are not written as whole ones. -/
def floats : Json → List Float
  | .number (.float x) => [x]
  | .array items => itemFloats items
  | .object members => memberFloats members
  | _ => []

def itemFloats : List Json → List Float
  | [] => []
  | item :: rest => floats item ++ itemFloats rest

def memberFloats : List (String × Json) → List Float
  | [] => []
  | (_, value) :: rest => floats value ++ memberFloats rest

end

mutual

theorem printable_of_sized : (v : Json) → v.Sized →
    (∀ x ∈ v.floats, x.isFinite = true → Stable x) → v.Printable
  | .null, _, _ | .bool _, _, _ | .string _, _, _ => trivial
  | .number (.integer _), h, _ => h
  | .number (.float x), _, stable => stable x (by simp [floats])
  | .array items, h, stable => printableItems_of_sized items h stable
  | .object members, h, stable => printableMembers_of_sized members h stable

theorem printableItems_of_sized : (items : List Json) → SizedItems items →
    (∀ x ∈ itemFloats items, x.isFinite = true → Stable x) → PrintableItems items
  | [], _, _ => trivial
  | item :: rest, h, stable => by
    simp only [itemFloats, List.forall_mem_append] at stable
    exact ⟨printable_of_sized item h.1 stable.1, printableItems_of_sized rest h.2 stable.2⟩

theorem printableMembers_of_sized : (members : List (String × Json)) → SizedMembers members →
    (∀ x ∈ memberFloats members, x.isFinite = true → Stable x) → PrintableMembers members
  | [], _, _ => trivial
  | (name, value) :: rest, h, stable => by
    simp only [memberFloats, List.forall_mem_append] at stable
    exact ⟨printable_of_sized value h.1 stable.1, printableMembers_of_sized rest h.2 stable.2⟩

end

mutual

theorem sized_of_proper : (v : Json) → v.Proper → v.Sized
  | .null, _ | .bool _, _ | .string _, _ | .number (.float _), _ => trivial
  | .number (.integer _), h => h
  | .array items, h => sizedItems_of_proper items h
  | .object members, h => sizedMembers_of_proper members h.2

theorem sizedItems_of_proper : (items : List Json) → ProperItems items → SizedItems items
  | [], _ => trivial
  | item :: rest, h => ⟨sized_of_proper item h.1, sizedItems_of_proper rest h.2⟩

theorem sizedMembers_of_proper :
    (members : List (String × Json)) → ProperMembers members → SizedMembers members
  | [], _ => trivial
  | (_, value) :: rest, h => ⟨sized_of_proper value h.1, sizedMembers_of_proper rest h.2⟩

end

theorem properItems_iff {items : List Json} : ProperItems items ↔ ∀ item ∈ items, item.Proper := by
  induction items with
  | nil => simp [ProperItems]
  | cons item rest ih => simp [ProperItems, ih]

theorem properMembers_iff {members : List (String × Json)} :
    ProperMembers members ↔ ∀ member ∈ members, member.2.Proper := by
  induction members with
  | nil => simp [ProperMembers]
  | cons member rest ih => simp [ProperMembers, ih]

theorem sizedItems_iff {items : List Json} : SizedItems items ↔ ∀ item ∈ items, item.Sized := by
  induction items with
  | nil => simp [SizedItems]
  | cons item rest ih => simp [SizedItems, ih]

theorem sizedMembers_iff {members : List (String × Json)} :
    SizedMembers members ↔ ∀ member ∈ members, member.2.Sized := by
  induction members with
  | nil => simp [SizedMembers]
  | cons member rest ih => simp [SizedMembers, ih]

/-! ## Numbers written as whole ones -/

theorem inWord_truncate {x : Float} (h : (Double.ofFloat x).isWhole = true) :
    InWord (Double.ofFloat x).truncate := by
  have hlt := Double.natAbs_truncate_lt h
  simp only [InWord]
  omega

theorem proper_ofFloat (x : Float) : (ofFloat x).Proper := by
  simp only [ofFloat]
  split
  · rename_i h
    exact inWord_truncate h
  · split
    · rename_i heq
      exact (Double.isFinite_iff_ofFloat x).2 ⟨_, _, _, heq⟩
    · trivial

end Widgetry.Json
