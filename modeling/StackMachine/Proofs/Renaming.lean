import Mathlib.Data.List.Forall2
import Mathlib.Logic.Equiv.Basic
import StackMachine.Proofs.Correspondence

/-! Local slots are interchangeable names. A program whose indices of locals are renamed by a permutation of
the slots runs as before, with each value in the slot that took the place of its old one. -/
namespace StackMachine

variable {σ τ : Type} {capacity : Nat} {p q : Program}

/-- An index that names a slot becomes the index of the slot that `π` puts in its place. An index that
names no slot stays. -/
inductive SlotRenamed (π : Equiv.Perm (Fin capacity)) : Word → Word → Prop
  | inside {index index' : Word} (slot : Fin capacity) (old : index.toInt = slot.val)
      (new : index'.toInt = (π slot).val) : SlotRenamed π index index'
  | outside {index : Word} (outside : index.toInt < 0 ∨ (capacity : Int) ≤ index.toInt) :
      SlotRenamed π index index

/-- The second program is the first with the indices of its locals renamed by `π`. -/
def Program.Renamed (π : Equiv.Perm (Fin capacity)) (p q : Program) : Prop :=
  List.Forall₂ (Instruction.Renamed (SlotRenamed π)) p.toList q.toList

/-- Every index that `π` gives to a local of the program can be written. -/
def Program.Renamable (π : Equiv.Perm (Fin capacity)) (p : Program) : Prop :=
  ∀ i ∈ p.toList, ∀ index ∈ i.localIndex?, ∀ slot : Fin capacity,
    index.toInt = slot.val → (π slot).val < 2147483648

/-! ### What can be renamed -/

section

variable {π : Equiv.Perm (Fin capacity)} {indices : Word → Word → Prop} {i : Instruction}

lemma rightUnique_slotRenamed : Relator.RightUnique (SlotRenamed π) := by
  rintro index a b ha hb
  cases ha with
  | inside slot old new =>
    cases hb with
    | inside slot' old' new' =>
      obtain rfl : slot' = slot := Fin.ext (by omega)
      exact Int32.toInt_inj.mp (new.trans new'.symm)
    | outside outside => omega
  | outside outside =>
    cases hb with
    | inside slot old new => omega
    | outside => rfl

lemma exists_slotRenamed_iff {index : Word} : (∃ index', SlotRenamed π index index') ↔
    ∀ slot : Fin capacity, index.toInt = slot.val → (π slot).val < 2147483648 := by
  constructor
  · rintro ⟨index',h⟩ slot hslot
    cases h with
    | inside slot' old new =>
      obtain rfl : slot' = slot := Fin.ext (by omega)
      have hlt := index'.toInt_lt
      omega
    | outside outside => omega
  · intro h
    by_cases hindex : 0 ≤ index.toInt ∧ index.toInt < capacity
    · obtain ⟨slot,hslot⟩ : ∃ slot : Fin capacity, index.toInt = slot.val :=
        ⟨⟨index.toInt.toNat,by omega⟩,(Int.toNat_of_nonneg hindex.1).symm⟩
      exact ⟨Int32.ofNat (π slot).val,.inside slot hslot (Int32.toInt_ofNat_of_lt (h slot hslot))⟩
    · exact ⟨index,.outside (by omega)⟩

lemma Instruction.rightUnique_renamed (h : Relator.RightUnique indices) :
    Relator.RightUnique (Instruction.Renamed indices) := by
  rintro i a b ha hb
  cases ha with
  | load named =>
    cases hb with
    | load named' => rw [h named named']
    | same other => cases other
  | store named =>
    cases hb with
    | store named' => rw [h named named']
    | same other => cases other
  | same other => exact (hb.eq_of_localIndex? other).symm

lemma Instruction.exists_renamed_iff :
    (∃ i', Renamed indices i i') ↔ ∀ index ∈ i.localIndex?, ∃ index', indices index index' := by
  constructor
  · rintro ⟨i',h⟩ index hindex
    cases h with
    | load named | store named =>
      obtain rfl := Option.some.inj hindex
      exact ⟨_,named⟩
    | same other =>
      rw [other] at hindex
      cases hindex
  · intro h
    cases i with
    | loadLocal index =>
      obtain ⟨index',named⟩ := h index rfl
      exact ⟨_,.load named⟩
    | storeLocal index =>
      obtain ⟨index',named⟩ := h index rfl
      exact ⟨_,.store named⟩
    | _ => exact ⟨_,.same rfl⟩

lemma exists_forall₂_iff {α β : Type} {R : α → β → Prop} {l : List α} :
    (∃ l', List.Forall₂ R l l') ↔ ∀ a ∈ l, ∃ b, R a b := by
  induction l with
  | nil => simp
  | cons a l ih =>
    rw [List.forall_mem_cons, ← ih]
    constructor
    · rintro ⟨_,h⟩
      cases h with
      | cons ha hl => exact ⟨⟨_,ha⟩,_,hl⟩
    · rintro ⟨⟨b,hb⟩,l',hl⟩
      exact ⟨b :: l',.cons hb hl⟩

end

namespace Program

variable {π : Equiv.Perm (Fin capacity)}

lemma exists_renamed_iff : (∃ q, p.Renamed π q) ↔ p.Renamable π := by
  have hlist : (∃ q, p.Renamed π q) ↔ ∃ l, List.Forall₂ (Instruction.Renamed (SlotRenamed π)) p.toList l :=
    ⟨fun ⟨q,h⟩ => ⟨q.toList,h⟩,fun ⟨l,h⟩ => ⟨ofList l,h⟩⟩
  rw [hlist, exists_forall₂_iff]
  simp only [Instruction.exists_renamed_iff, exists_slotRenamed_iff, Renamable]

/-- Renaming leaves no choice. -/
lemma Renamed.unique {q' : Program} (h : p.Renamed π q) (h' : p.Renamed π q') : q = q' := by
  have hlist := List.right_unique_forall₂' (Instruction.rightUnique_renamed rightUnique_slotRenamed) h h'
  rw [← ofList_toList q, hlist, ofList_toList]

lemma existsUnique_renamed_iff : (∃! q, p.Renamed π q) ↔ p.Renamable π := by
  rw [← exists_renamed_iff]
  constructor
  · exact ExistsUnique.exists
  · rintro ⟨q,h⟩
    exact ⟨q,h,fun q' h' => h'.unique h⟩

/-! ### Renamed programs run alike -/

lemma Renamed.size_eq (h : p.Renamed π q) : q.size = p.size := h.length_eq.symm

lemma Renamed.get? (h : p.Renamed π q) {ip : Nat} {i : Instruction} (hi : p.get? ip = some i) :
    ∃ i', q.get? ip = some i' ∧ i.Renamed (SlotRenamed π) i' := by
  obtain ⟨hlt,rfl⟩ := Array.getElem?_eq_some_iff.mp hi
  have hlt' : ip < q.size := h.size_eq ▸ hlt
  exact ⟨_,Array.getElem?_eq_getElem hlt',h.get hlt hlt'⟩

end Program

namespace Correspondence

/-- The values of the table `a` are in the table `b`, each in the slot that `π` puts in the place of its
old one. -/
structure Permuted (π : Equiv.Perm (Fin capacity)) (a b : Array Word) : Prop where
  size_left : a.size = capacity
  size_right : b.size = capacity
  getElem? : ∀ slot : Fin capacity, b[(π slot).val]? = a[slot.val]?

/-- Storing in a slot and in the one that took its place keeps every value where it belongs. -/
lemma Permuted.set {π : Equiv.Perm (Fin capacity)} {a b : Array Word} (h : Permuted π a b)
    (slot : Fin capacity) (v : Word) :
    Permuted π (a.setIfInBounds slot.val v) (b.setIfInBounds (π slot).val v) := by
  refine ⟨Array.size_setIfInBounds.trans h.size_left,Array.size_setIfInBounds.trans h.size_right,?_⟩
  intro j
  by_cases hj : slot = j
  · subst hj
    rw [Array.getElem?_setIfInBounds_self_of_lt (h.size_right ▸ (π slot).isLt),
      Array.getElem?_setIfInBounds_self_of_lt (h.size_left ▸ slot.isLt)]
  -- Different slots stay different, since `π` is injective.
  · have hne : slot.val ≠ j.val := fun he => hj (Fin.ext he)
    have hne' : (π slot).val ≠ (π j).val := fun he => hj (π.injective (Fin.ext he))
    rw [Array.getElem?_setIfInBounds_ne hne, Array.getElem?_setIfInBounds_ne hne', h.getElem?]

/-- An index of a slot becomes one of the slot in its place. -/
lemma Permuted.exists_slot {π : Equiv.Perm (Fin capacity)} {a b : Array Word} (h : Permuted π a b)
    {index index' : Word} {n : Nat} (named : SlotRenamed π index index') (inside : slot? index a.size = some n) :
    ∃ slot : Fin capacity, slot.val = n ∧ slot? index' b.size = some (π slot).val := by
  have hn := boundedIndex?_eq_some_iff.mp inside
  have ha := h.size_left
  cases named with
  | inside slot old new =>
    refine ⟨slot,by omega,boundedIndex?_eq_some_iff.mpr ⟨new,?_⟩⟩
    rw [h.size_right]
    exact (π slot).isLt
  | outside outside => omega

lemma Permuted.index_eq {π : Equiv.Perm (Fin capacity)} {a b : Array Word} (h : Permuted π a b)
    {index index' : Word} (named : SlotRenamed π index index') (outside : slot? index a.size = none) :
    index' = index := by
  have hnone := boundedIndex?_eq_none_iff.mp outside
  have ha := h.size_left
  cases named with
  | inside slot old new =>
    have hlt := slot.isLt
    omega
  | outside => rfl

/-- The other machine has its locals permuted by `π`. -/
def permuted (π : Equiv.Perm (Fin capacity)) : Correspondence := { same with
  tableRel := Permuted π
  indexRel := SlotRenamed π
  slot := by
    rintro a b index index' n h named inside
    obtain ⟨slot,rfl,hslot⟩ := h.exists_slot named inside
    exact ⟨_,hslot,h.getElem? slot,h.set slot⟩
  outside := fun h named outside _ => h.index_eq named outside }

lemma frames_permuted_new (π : Equiv.Perm (Fin capacity)) :
    (permuted π).Frames (Frame.new capacity) (Frame.new capacity) := by
  refine ⟨rfl,⟨Array.size_replicate,Array.size_replicate,?_⟩,rfl⟩
  intro slot
  simp [Frame.new]

/-- A renamed program follows the program to the end, whatever that is. -/
lemma along_permuted [Sink σ] {π : Equiv.Perm (Fin capacity)} (h : p.Renamed π q) (r : Run σ) :
    (permuted π).Along p q r where
  size_le := Nat.le_of_eq h.size_eq.symm
  fetch _ _ _ hi := h.get? hi
  finish n _ hi := by
    rw [Program.get?_eq_none_iff] at hi ⊢
    rwa [h.size_eq]
  bound _ e _ f g hframes := by
    apply Fault.sameBound_of
    · right
      exact congrArg List.length hframes.stack
    · right
      exact hframes.locals.size_right.trans hframes.locals.size_left.symm
    · right
      exact h.size_eq

end Correspondence

namespace Program

variable [Sink σ] [Sink τ]

lemma runs_renamed {π : Equiv.Perm (Fin capacity)} (h : p.Renamed π q) (sink : σ) (sink' : τ) (n : Nat) :
    (Correspondence.permuted π).Runs (p.runTraced n capacity sink) (q.runTraced n capacity sink') :=
  (Correspondence.along_permuted h _).runs_start (Correspondence.frames_permuted_new π) sink' n

/-- There is just one renamed program, unless an index in it would be too large to write. It ends exactly
if the program does, with the same outcome. After any number of rounds both have the same stack and the same
instruction pointer, and the value of each slot is in the slot that took its place. -/
theorem runTraced_renamed (π : Equiv.Perm (Fin capacity)) (p : Program) (sink : σ) (sink' : τ) :
    ((∃! q, p.Renamed π q) ↔ p.Renamable π) ∧
    ∀ q, p.Renamed π q →
      (∀ outcome, q.EndsWith capacity sink' outcome ↔ p.EndsWith capacity sink outcome) ∧
      ∀ n, (q.runTraced n capacity sink').status = (p.runTraced n capacity sink).status ∧
        (q.runTraced n capacity sink').frame.ip = (p.runTraced n capacity sink).frame.ip ∧
        (q.runTraced n capacity sink').frame.stack = (p.runTraced n capacity sink).frame.stack ∧
        ∀ slot : Fin capacity, ∃ v, (p.runTraced n capacity sink).frame.locals[slot.val]? = some v ∧
          (q.runTraced n capacity sink').frame.locals[(π slot).val]? = some v := by
  refine ⟨existsUnique_renamed_iff,?_⟩
  intro q h
  have hruns := runs_renamed h sink sink'
  constructor
  · intro outcome
    have hstatus : ∀ n, (q.runTraced n capacity sink').status = (p.runTraced n capacity sink).status :=
      fun n => (hruns n).status
    simp only [EndsWith, hstatus]
  · intro n
    obtain ⟨hstack,hlocals,hip⟩ := (hruns n).frame
    refine ⟨(hruns n).status,hip,hstack,?_⟩
    intro slot
    have hlt : slot.val < (p.runTraced n capacity sink).frame.locals.size := by
      rw [hlocals.size_left]
      exact slot.isLt
    have hslot := Array.getElem?_eq_getElem hlt
    exact ⟨_,hslot,(hlocals.getElem? slot).trans hslot⟩

/-- Two locals change places. The index that names neither stays, and so does the fault that it causes. -/
theorem runTraced_renamed_swap :
    (ofList [.pushConstant 5, .storeLocal 0, .loadLocal 7]).Renamed (Equiv.swap (0 : Fin 2) 1)
      (ofList [.pushConstant 5, .storeLocal 1, .loadLocal 7]) ∧
    (ofList [.pushConstant 5, .storeLocal 1, .loadLocal 7]).EndsWith 2 Silence.mk
      (.error (.indexOutOfRange .localSlot 7 2 2)) := by
  have renamed : (ofList [.pushConstant 5, .storeLocal 0, .loadLocal 7]).Renamed (Equiv.swap (0 : Fin 2) 1)
      (ofList [.pushConstant 5, .storeLocal 1, .loadLocal 7]) := by
    refine .cons (.same rfl) (.cons (.store ?_) (.cons (.load ?_) .nil))
    · exact .inside 0 rfl rfl
    · exact .outside (by decide)
  have h := (runTraced_renamed (Equiv.swap (0 : Fin 2) 1) _ Silence.mk Silence.mk).2 _ renamed
  refine ⟨renamed,(h.1 _).mpr ⟨3,rfl⟩⟩

end Program
end StackMachine
