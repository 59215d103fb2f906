import Mathlib.Data.Nat.Log
import StackMachine.Proofs.Bounds
import StackMachine.Proofs.Layout

/-! The listing of a program. Later indices have no fewer digits, so the digits of the last one are room for
all of them: every index stands at the right end of a column of one width, and what is left of a line
behind its column reads back as the instruction. -/
namespace StackMachine

open Text

namespace Text

/-- There is a digit for each time that a number can be divided by ten, and one more. -/
lemma length_decimal (n : Nat) : (decimal n).length = Nat.log 10 n + 1 := by
  fun_induction decimal n with
  | case1 n h => rw [List.length_singleton, Nat.log_of_lt h]
  | case2 n h ih =>
    have hpos : 0 < Nat.log 10 n := Nat.log_pos (by decide) (Nat.le_of_not_lt h)
    rw [List.length_append, List.length_singleton, ih, Nat.log_div_base]
    omega

lemma length_decimal_le {m n : Nat} (h : m ≤ n) : (decimal m).length ≤ (decimal n).length := by
  rw [length_decimal, length_decimal]
  exact Nat.add_le_add_right (Nat.log_mono_right h) 1

/-- The field is `width` characters wide and holds the text at its right end, behind spaces. -/
structure RightAligned (width : Nat) (text field : List Char) : Prop where
  length_eq : field.length = width
  spaced : ∃ n, field = List.replicate n ' ' ++ text

lemma rightAligned_padLeft {width : Nat} {s : String} (h : s.length ≤ width) :
    RightAligned width s.toList (padLeft width s).toList where
  length_eq := by
    rw [String.length_toList, padLeft, String.length_append, length_spaces]
    omega
  spaced := ⟨width - s.length,by rw [padLeft, spaces, String.toList_append, String.toList_ofList]⟩

/-- Neither the spaces nor an index in a field end a line. -/
lemma RightAligned.plain {width k : Nat} {field : List Char} (h : RightAligned width (decimal k) field) :
    Source.Plain field := by
  obtain ⟨n,rfl⟩ := h.spaced
  have hspaces : Source.Plain (List.replicate n ' ') := by
    intro c hc
    rw [List.eq_of_mem_replicate hc]
    decide
  exact hspaces.append (Numeral.plain (digits_decimal k)).isPlain

end Text

namespace Program

variable {p : Program} {width : Nat} {rows : List (List Char)}

/-- The rows have the instructions in order, each behind its index in a field of one width. -/
structure Listed (p : Program) (width : Nat) (rows : List (List Char)) : Prop where
  length_eq : rows.length = p.size
  row : ∀ k i, p.get? k = some i → ∃ field, RightAligned width (decimal k) field ∧
    rows[k]? = some (field ++ ": ".toList ++ i.text.toList)

/-- An index has no more digits than the last one. -/
lemma length_decimal_le_indexWidth {k : Nat} (h : k < p.size) : (decimal k).length ≤ p.indexWidth :=
  length_decimal_le (Nat.le_sub_one_of_lt h)

namespace Listed

lemma oneLine (h : p.Listed width rows) : ∀ row ∈ rows, '\n' ∉ row := by
  intro row hrow
  obtain ⟨k,hk⟩ := List.mem_iff_getElem?.mp hrow
  obtain ⟨hlt,_⟩ := List.getElem?_eq_some_iff.mp hk
  obtain ⟨i,hi⟩ := exists_get?_iff.mpr (h.length_eq ▸ hlt)
  obtain ⟨field,hfield,hkrow⟩ := h.row k i hi
  obtain rfl := Option.some.inj (hk.symm.trans hkrow)
  have hplain : Source.Plain (field ++ ": ".toList ++ i.text.toList) :=
    (hfield.plain.append (Source.plain_of_all (by decide))).append i.plain_text
  exact fun hmem => (hplain _ hmem).1 rfl

/-- Without field and separator the rows are the canonical texts. -/
lemma map_drop (h : p.Listed width rows) :
    (rows.map fun row => String.ofList (row.drop (width + 2))) = p.toList.map Instruction.text := by
  apply List.ext_getElem?
  intro k
  rw [List.getElem?_map, List.getElem?_map]
  by_cases hk : k < p.size
  · obtain ⟨i,hi⟩ := exists_get?_iff.mpr hk
    obtain ⟨field,hfield,hrow⟩ := h.row k i hi
    have hlist : p.toList[k]? = some i := (p.getElem?_toList k).trans hi
    have hlength : (field ++ ": ".toList).length = width + 2 := by
      rw [List.length_append, hfield.length_eq]
      rfl
    rw [hrow, hlist, Option.map_some, Option.map_some, List.drop_left' hlength, String.ofList_toList]
  · rw [List.getElem?_eq_none (by rw [h.length_eq]; omega),
      List.getElem?_eq_none (by rw [length_toList]; omega)]
    rfl

theorem decode_eq (h : p.Listed width rows) :
    decode (rows.map fun row => String.ofList (row.drop (width + 2))) = .ok p := by
  rw [h.map_drop, ← ofList_toList p, toList_ofList]
  apply decode_of_forall₂
  rw [List.forall₂_map_left_iff, List.forall₂_same]
  intro i _ position
  exact Instruction.decode_eq_ok_iff.mpr i.spells_text

end Listed

/-- A line of a listing without its end. -/
def listingRow (width : Nat) (line : Instruction × Nat) : List Char :=
  (padLeft width (natText line.2)).toList ++ ": ".toList ++ line.1.text.toList

lemma toList_listing (p : Program) : p.listing.toList =
    (p.toList.zipIdx.map (listingRow p.indexWidth)).flatMap (· ++ ['\n']) := by
  rw [listing, String.toList_join, List.flatMap_map, List.flatMap_map]
  simp only [listingLine, listingRow, String.toList_append]
  rfl

lemma listed_listing (p : Program) :
    p.Listed p.indexWidth (p.toList.zipIdx.map (listingRow p.indexWidth)) where
  length_eq := by rw [List.length_map, List.length_zipIdx, length_toList]
  row k i hi := by
    have hlist : p.toList[k]? = some i := (p.getElem?_toList k).trans hi
    have hfits : (natText k).length ≤ p.indexWidth := by
      rw [natText, String.length_ofList]
      exact length_decimal_le_indexWidth (exists_get?_iff.mp ⟨i,hi⟩)
    refine ⟨(padLeft p.indexWidth (natText k)).toList,?_,?_⟩
    · have haligned := rightAligned_padLeft hfits
      rwa [natText, String.toList_ofList, ← natText] at haligned
    · rw [List.getElem?_map, List.getElem?_zipIdx, hlist, Option.map_some, Option.map_some, Nat.zero_add,
        listingRow]

/-- A listing has one line for each instruction, each with a line end, where the index stands in a column
that is as wide as the last index has digits, and the canonical text behind it. Taking the columns off and
reading the rest gives the program again. -/
theorem listing_readBack (p : Program) :
    p.indexWidth = Nat.log 10 (p.size - 1) + 1 ∧
    ∃ rows, p.Listed p.indexWidth rows ∧
      p.listing.toList = rows.flatMap (· ++ ['\n']) ∧
      Source.lines p.listing.toList = rows ++ [[]] ∧
      decode (rows.map fun row => String.ofList (row.drop (p.indexWidth + 2))) = .ok p := by
  have hlisted := p.listed_listing
  refine ⟨length_decimal (p.size - 1),_,hlisted,p.toList_listing,?_,hlisted.decode_eq⟩
  rw [p.toList_listing, Source.lines, splitWhere_eq_splitOnP]
  exact splitOn_flatMap hlisted.oneLine

example : (ofList [.pushConstant 4, .return]).listing = "0: iconst 4\n1: ireturn\n" := by cbv

end Program
end StackMachine
