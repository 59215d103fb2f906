import StackMachine.Proofs.FirstError

/-! Loading a source, line by line. The lines that loading leaves are in a normal form, every list of such
lines is what some source loads as, and loading two sources joined by a line end is loading one after the
other. What is not an instruction, blanks, comments and empty lines, leaves no mark on the result. -/
namespace StackMachine

open Text

namespace Text

variable {cs before after : List Char}

lemma AllBlank.append (hb : AllBlank before) (ha : AllBlank after) : AllBlank (before ++ after) :=
  List.forall_mem_append.mpr ⟨hb,ha⟩

lemma AllBlank.not_mem {c : Char} (h : AllBlank cs) (hc : isBlank c = false) : c ∉ cs := by
  intro hmem
  rw [h c hmem] at hc
  cases hc

lemma exists_dropWhile_eq (cs : List Char) :
    ∃ after, AllBlank after ∧ cs.dropWhile isBlank = trim cs ++ after := by
  refine ⟨((cs.dropWhile isBlank).reverse.takeWhile isBlank).reverse,?_,?_⟩
  · intro c hc
    exact List.mem_takeWhile_imp (List.mem_reverse.mp hc)
  · rw [trim, ← List.reverse_append, List.takeWhile_append_dropWhile, List.reverse_reverse]

/-- Trimming takes blanks off both ends and nothing else. -/
lemma exists_trim (cs : List Char) :
    ∃ before after, AllBlank before ∧ AllBlank after ∧ cs = before ++ trim cs ++ after := by
  obtain ⟨after,ha,hdrop⟩ := exists_dropWhile_eq cs
  refine ⟨cs.takeWhile isBlank,after,fun c hc => List.mem_takeWhile_imp hc,ha,?_⟩
  rw [List.append_assoc, ← hdrop, List.takeWhile_append_dropWhile]

lemma isBlank_of_head?_dropWhile {c : Char} (h : c ∈ (cs.dropWhile isBlank).head?) : isBlank c = false := by
  have hnot := List.head?_dropWhile_not isBlank cs
  rwa [Option.mem_def.mp h] at hnot

lemma trimmed_trim (h : trim cs ≠ []) : Trimmed (trim cs) where
  nonempty := h
  head c hc := by
    obtain ⟨after,_,hdrop⟩ := exists_dropWhile_eq cs
    rw [← List.head?_append_of_ne_nil _ h, ← hdrop] at hc
    exact isBlank_of_head?_dropWhile hc
  last c hc := by
    rw [trim, List.getLast?_reverse] at hc
    exact isBlank_of_head?_dropWhile hc

lemma Trimmed.not_allBlank (h : Trimmed cs) : ¬ AllBlank cs := by
  intro hblank
  obtain ⟨c,rest,rfl⟩ := List.exists_cons_of_ne_nil h.nonempty
  exact hblank.not_mem (h.head c rfl) List.mem_cons_self

lemma trim_of_allBlank (h : AllBlank cs) : trim cs = [] := by
  rw [trim, List.dropWhile_eq_nil_iff.mpr h]
  rfl

lemma trim_allBlank_append (hb : AllBlank before) (cs : List Char) : trim (before ++ cs) = trim cs := by
  rw [trim, List.dropWhile_append_of_pos hb, ← trim]

lemma trim_append_allBlank (cs : List Char) (ha : AllBlank after) : trim (cs ++ after) = trim cs := by
  obtain ⟨before,rest,hb,hr,hcs⟩ := exists_trim cs
  by_cases h : trim cs = []
  · rw [h, List.append_nil] at hcs
    have hblank : AllBlank cs := hcs ▸ hb.append hr
    rw [h, trim_of_allBlank (hblank.append ha)]
  · have hall : cs ++ after = before ++ trim cs ++ (rest ++ after) := by
      rw [← List.append_assoc, ← hcs]
    rw [hall, trim_append hb (trimmed_trim h) (hr.append ha)]

end Text

namespace Source

/-! ### Comments -/

/-- No comment begins in the text. -/
structure Uncommented (cs : List Char) : Prop where
  hash : '#' ∉ cs
  slashes : ¬ ['/', '/'] <:+: cs

lemma Uncommented.of_isInfix {cs ds : List Char} (h : Uncommented cs) (hd : ds <:+: cs) : Uncommented ds where
  hash hc := h.hash (hd.mem hc)
  slashes hs := h.slashes (hs.trans hd)

/-- Stripping cuts a line somewhere. -/
lemma exists_stripComment (cs : List Char) : ∃ rest, cs = stripComment cs ++ rest := by
  fun_induction stripComment cs with
  | case1 => exact ⟨[],rfl⟩
  | case2 rest => exact ⟨_,rfl⟩
  | case3 rest => exact ⟨_,rfl⟩
  | case4 c cs _ _ ih =>
    obtain ⟨rest,hrest⟩ := ih
    exact ⟨rest,congrArg (c :: ·) hrest⟩

lemma uncommented_stripComment (cs : List Char) : Uncommented (stripComment cs) := by
  fun_induction stripComment cs with
  | case1 => exact ⟨List.not_mem_nil,by simp⟩
  | case2 => exact ⟨List.not_mem_nil,by simp⟩
  | case3 => exact ⟨List.not_mem_nil,by simp⟩
  | case4 c cs hhash hslash ih =>
    refine ⟨?_,?_⟩
    · rw [List.mem_cons, not_or]
      exact ⟨fun h => hhash h.symm,ih.hash⟩
    · rw [List.infix_cons_iff, not_or]
      refine ⟨?_,ih.slashes⟩
      -- What is left behind a slash begins like the text there, so not with a second one.
      intro h
      obtain ⟨hc,hcs⟩ := List.cons_prefix_cons.mp h
      obtain ⟨tail,htail⟩ := hcs
      obtain ⟨rest,hrest⟩ := exists_stripComment cs
      rw [← htail] at hrest
      exact hslash _ hc.symm hrest

lemma stripComment_of_uncommented {cs : List Char} (h : Uncommented cs) : stripComment cs = cs := by
  fun_induction stripComment cs with
  | case1 => rfl
  | case2 => exact absurd List.mem_cons_self h.hash
  | case3 rest => exact absurd ⟨[],rest,rfl⟩ h.slashes
  | case4 c cs _ _ ih => rw [ih (h.of_isInfix (List.infix_cons List.infix_rfl))]

/-- A comment begins in the text in front, or the text behind decides. -/
lemma stripComment_append {cs tail : List Char} (h : cs.getLast? ≠ some '/' ∨ tail.head? ≠ some '/') :
    stripComment cs ≠ cs ∧ stripComment (cs ++ tail) = stripComment cs ∨
    stripComment cs = cs ∧ stripComment (cs ++ tail) = cs ++ stripComment tail := by
  fun_induction stripComment cs with
  | case1 => exact .inr ⟨rfl,rfl⟩
  | case2 => exact .inl ⟨by simp,rfl⟩
  | case3 => exact .inl ⟨by simp,rfl⟩
  | case4 c cs hhash hslash ih =>
    have hcons : stripComment (c :: (cs ++ tail)) = c :: stripComment (cs ++ tail) := by
      rw [stripComment]
      · exact hhash
      · rintro rest rfl hrest
        cases cs with
        | nil => simp_all
        | cons d cs => exact hslash cs rfl (congrArg (· :: cs) (List.cons.inj hrest).1)
    have hlast : cs.getLast? ≠ some '/' ∨ tail.head? ≠ some '/' := by
      cases cs with
      | nil => simp
      | cons d cs => simpa using h
    rw [List.cons_append, hcons]
    obtain ⟨hne,hstrip⟩ | ⟨hself,hstrip⟩ := ih hlast
    · exact .inl ⟨fun heq => hne (List.cons.inj heq).2,by rw [hstrip]⟩
    · exact .inr ⟨by rw [hself],by rw [hstrip, List.cons_append]⟩

/-! ### Lines -/

/-- A line as loading leaves it. -/
structure Bare (line : List Char) : Prop where
  trimmed : Trimmed line
  uncommented : Uncommented line
  oneLine : '\n' ∉ line

lemma content_isInfix (line : List Char) : content line <:+: stripComment line := by
  obtain ⟨before,after,_,_,hsplit⟩ := exists_trim (stripComment line)
  exact ⟨before,after,hsplit.symm⟩

/-- What a line holds is in normal form. -/
lemma bare_content {line : List Char} (hline : '\n' ∉ line) (h : content line ≠ []) : Bare (content line) where
  trimmed := trimmed_trim h
  uncommented := (uncommented_stripComment line).of_isInfix (content_isInfix line)
  oneLine hmem := by
    obtain ⟨rest,hrest⟩ := exists_stripComment line
    apply hline
    rw [hrest]
    exact List.mem_append_left rest ((content_isInfix line).mem hmem)

lemma Bare.content_eq {line : List Char} (h : Bare line) : content line = line := by
  have hnil : AllBlank [] := by simp [AllBlank]
  have htrim := trim_append hnil h.trimmed hnil
  rw [List.nil_append, List.append_nil] at htrim
  rw [content, stripComment_of_uncommented h.uncommented, htrim]

lemma uncommented_of_allBlank {cs : List Char} (h : AllBlank cs) : Uncommented cs where
  hash := h.not_mem (by decide)
  slashes hsub := h.not_mem (by decide) (hsub.mem List.mem_cons_self)

lemma content_allBlank_append {before : List Char} (hb : AllBlank before) (line : List Char) :
    content (before ++ line) = content line := by
  have hself := stripComment_of_uncommented (uncommented_of_allBlank hb)
  have hlast : before.getLast? ≠ some '/' :=
    fun h => hb.not_mem (by decide) (List.mem_of_getLast? h)
  obtain ⟨hne,_⟩ | ⟨_,hstrip⟩ := @stripComment_append before line (.inl hlast)
  · exact absurd hself hne
  · rw [content, hstrip, trim_allBlank_append hb, ← content]

lemma content_append_allBlank {after : List Char} (line : List Char) (ha : AllBlank after) :
    content (line ++ after) = content line := by
  have hhead : after.head? ≠ some '/' :=
    fun h => ha.not_mem (by decide) (List.mem_of_head? h)
  obtain ⟨_,hstrip⟩ | ⟨hself,hstrip⟩ := @stripComment_append line after (.inr hhead)
  · rw [content, hstrip, ← content]
  · rw [content, hstrip, stripComment_of_uncommented (uncommented_of_allBlank ha),
      trim_append_allBlank line ha, content, hself]

/-- A comment may begin right behind anything but a slash, and `#` even there. -/
lemma content_append_comment {line : List Char} {c : Comment}
    (h : c.marker = .slashes → line.getLast? ≠ some '/') : content (line ++ c.chars) = content line := by
  have hnil : stripComment c.chars = [] := stripComment_comment (some c)
  have hjoint : line.getLast? ≠ some '/' ∨ c.chars.head? ≠ some '/' := by
    cases hm : c.marker with
    | hash => exact .inr (by simp [Comment.chars, hm, Marker.chars])
    | slashes => exact .inl (h hm)
  obtain ⟨_,hstrip⟩ | ⟨hself,hstrip⟩ := stripComment_append hjoint
  · rw [content, hstrip, ← content]
  · rw [content, hstrip, hnil, List.append_nil, content, hself]

/-! ### Sources -/

/-- A source is one line, or a line, its end and a source again. -/
theorem line_induction {P : List Char → Prop} (one : ∀ line, '\n' ∉ line → P line)
    (more : ∀ line rest, '\n' ∉ line → P rest → P (line ++ '\n' :: rest)) (source : List Char) : P source := by
  by_cases h : '\n' ∈ source
  · obtain ⟨line,rest,rfl,hline⟩ := List.eq_append_cons_of_mem h
    have hlt : rest.length < (line ++ '\n' :: rest).length := by
      simp only [List.length_append, List.length_cons]
      omega
    exact more line rest hline (line_induction one more rest)
  · exact one source h
termination_by source.length

lemma lines_append (a b : List Char) : lines (a ++ '\n' :: b) = lines a ++ lines b := by
  simp only [lines, splitWhere_eq_splitOnP]
  exact List.splitOnP_append_cons a b (by decide)

lemma lines_of_not_mem {line : List Char} (h : '\n' ∉ line) : lines line = [line] := by
  rw [lines, splitWhere_eq_splitOnP]
  apply List.splitOnP_eq_singleton
  rintro c hc
  exact beq_false_of_ne (fun heq => h (heq ▸ hc))

lemma newline_not_mem_of_mem_lines {source line : List Char} (h : line ∈ lines source) : '\n' ∉ line := by
  induction source using line_induction with
  | one source hsource =>
    rw [lines_of_not_mem hsource, List.mem_singleton] at h
    exact h ▸ hsource
  | more first rest hfirst ih =>
    rw [lines_append, lines_of_not_mem hfirst, List.mem_append, List.mem_singleton] at h
    obtain rfl | h := h
    · exact hfirst
    · exact ih h

/-- Loading goes line by line. -/
theorem contents_append (a b : List Char) : contents (a ++ '\n' :: b) = contents a ++ contents b := by
  rw [contents, lines_append, List.map_append, List.filter_append]
  rfl

lemma bare_of_mem_contents {source line : List Char} (h : line ∈ contents source) : Bare line := by
  rw [contents, List.mem_filter, List.mem_map] at h
  obtain ⟨⟨raw,hraw,rfl⟩,hne⟩ := h
  exact bare_content (newline_not_mem_of_mem_lines hraw) (by simpa using hne)

/-- Every list of lines in normal form is what some source loads as. -/
theorem contents_intercalate {ls : List (List Char)} (h : ∀ line ∈ ls, Bare line) :
    contents (List.intercalate ['\n'] ls) = ls := by
  by_cases hnil : ls = []
  · subst hnil
    rfl
  · have hcontent : ls.map content = ls := by
      rw [List.map_congr_left fun line hline => (h line hline).content_eq, List.map_id']
    rw [contents, lines_intercalate (fun line hline => (h line hline).oneLine) hnil, hcontent,
      List.filter_eq_self]
    intro line hline
    simpa using (h line hline).trimmed.nonempty

lemma contents_of_not_mem {line : List Char} (h : '\n' ∉ line) :
    contents line = [content line].filter fun line => !line.isEmpty := by
  rw [contents, lines_of_not_mem h, List.map_singleton]

/-- What leaves no mark on the last line of a source leaves none on the source. -/
lemma contents_append_of_last {source tail : List Char} (htail : '\n' ∉ tail)
    (h : ∀ line, line <:+ source → content (line ++ tail) = content line) :
    contents (source ++ tail) = contents source := by
  induction source using line_induction with
  | one line hline =>
    have happend : '\n' ∉ line ++ tail := by simp [hline, htail]
    rw [contents_of_not_mem happend, contents_of_not_mem hline, h line List.suffix_rfl]
  | more first rest hfirst ih =>
    have hrest : rest <:+ first ++ '\n' :: rest := ⟨first ++ ['\n'],by simp⟩
    rw [List.append_assoc, List.cons_append, contents_append, contents_append,
      ih fun line hline => h line (hline.trans hrest)]

/-- What leaves no mark in front of a line leaves none in front of a source. -/
lemma contents_append_of_first {before : List Char} (hbefore : '\n' ∉ before)
    (h : ∀ line, content (before ++ line) = content line) (source : List Char) :
    contents (before ++ source) = contents source := by
  have hfirst : ∀ line, '\n' ∉ line → contents (before ++ line) = contents line := by
    intro line hline
    have happend : '\n' ∉ before ++ line := by simp [hbefore, hline]
    rw [contents_of_not_mem happend, contents_of_not_mem hline, h line]
  induction source using line_induction with
  | one line hline => exact hfirst line hline
  | more first rest hline _ =>
    rw [← List.append_assoc, contents_append, contents_append, hfirst first hline]

lemma contents_append_allBlank {after : List Char} (source : List Char) (ha : AllBlank after) :
    contents (source ++ after) = contents source := by
  induction after using line_induction generalizing source with
  | one line hline => exact contents_append_of_last hline fun l _ => content_append_allBlank l ha
  | more first rest hfirst ih =>
    obtain ⟨hblank,hmore⟩ := List.forall_mem_append.mp ha
    -- Behind the line end the blanks are a source of their own.
    have hrest : contents rest = [] := ih [] (List.forall_mem_cons.mp hmore).2
    rw [← List.append_assoc, contents_append, hrest, List.append_nil]
    exact contents_append_of_last hfirst fun l _ => content_append_allBlank l hblank

lemma contents_allBlank_append {before : List Char} (hb : AllBlank before) (source : List Char) :
    contents (before ++ source) = contents source := by
  induction before using line_induction with
  | one line hline => exact contents_append_of_first hline (content_allBlank_append hb) source
  | more first rest hfirst ih =>
    obtain ⟨hblank,hmore⟩ := List.forall_mem_append.mp hb
    have hnil : contents first = [] := contents_append_allBlank [] hblank
    rw [List.append_assoc, List.cons_append, contents_append, hnil, List.nil_append,
      ih (List.forall_mem_cons.mp hmore).2]

lemma contents_append_comment {source : List Char} {c : Comment}
    (h : c.marker = .slashes → source.getLast? ≠ some '/') :
    contents (source ++ c.chars) = contents source := by
  apply contents_append_of_last c.newline_not_mem
  rintro line ⟨before,rfl⟩
  apply content_append_comment
  intro hm hlast
  apply h hm
  have hne : line ≠ [] := by
    rintro rfl
    cases hlast
  rw [List.getLast?_append_of_ne_nil _ hne, hlast]

/-! ### The result -/

lemma toList_newline_append (a b : String) : (a ++ "\n" ++ b).toList = a.toList ++ '\n' :: b.toList := by
  simp only [String.toList_append, List.append_assoc]
  rfl

/-- Loading two sources joined by a line end is loading one after the other. -/
theorem instructionLines_append (a b : String) :
    instructionLines (a ++ "\n" ++ b) = instructionLines a ++ instructionLines b := by
  simp only [instructionLines, toList_newline_append, contents_append, List.map_append]

lemma bare_of_mem_instructionLines {source line : String} (h : line ∈ instructionLines source) :
    Bare line.toList := by
  obtain ⟨cs,hcs,rfl⟩ := List.mem_map.mp h
  rw [String.toList_ofList]
  exact bare_of_mem_contents hcs

/-- Lines in normal form, joined by line ends, load as themselves. -/
theorem instructionLines_intercalate {ls : List String} (h : ∀ line ∈ ls, Bare line.toList) :
    instructionLines ("\n".intercalate ls) = ls := by
  have hbare : ∀ line ∈ ls.map String.toList, Bare line := List.forall_mem_map.mpr h
  have hjoin : ("\n".intercalate ls).toList = List.intercalate ['\n'] (ls.map String.toList) :=
    String.toList_intercalate
  rw [instructionLines, hjoin, contents_intercalate hbare, List.map_map]
  simp only [Function.comp_def, String.ofList_toList, List.map_id']

/-- A line that loading leaves is never empty to the reader of instructions. -/
lemma decode_instructionLines_ne (source : String) (position : Nat) :
    Program.decode (instructionLines source) ≠ .error (.emptyInstruction position) := by
  intro h
  obtain ⟨bad,k,hfirst,he⟩ := Program.decode_eq_error_iff.mp h
  have hrejects := Instruction.decode_eq_error_iff.mp he
  obtain rfl : position = k := hrejects.position_eq
  have hblank : AllBlank bad.toList := by
    rw [← consists_nil_iff, ← words_eq_iff]
    exact Instruction.rejects_empty_iff.mp hrejects
  exact (bare_of_mem_instructionLines hfirst.mem).trimmed.not_allBlank hblank

/-- An instruction in its canonical text is in normal form. -/
lemma bare_text (i : Instruction) : Bare i.text.toList where
  trimmed := i.trimmed_text
  uncommented := ⟨fun h => (i.plain_text _ h).2.1 rfl,fun h => (i.plain_text _ (h.mem List.mem_cons_self)).2.2 rfl⟩
  oneLine h := (i.plain_text _ h).1 rfl

/-- Loading goes line by line, and leaves exactly the lists of lines in a normal form that loading does not change
and in which no line is blank. Blanks at the ends of lines, empty lines and comments move no instruction. -/
theorem instructionLines_normal :
    (∀ a b, instructionLines (a ++ "\n" ++ b) = instructionLines a ++ instructionLines b) ∧
    (∀ source, (∀ line ∈ instructionLines source, Bare line.toList) ∧
      instructionLines ("\n".intercalate (instructionLines source)) = instructionLines source ∧
      ∀ position, Program.decode (instructionLines source) ≠ .error (.emptyInstruction position)) ∧
    (∀ ls : List String, (∀ line ∈ ls, Bare line.toList) → instructionLines ("\n".intercalate ls) = ls) ∧
    (∀ a b blanks, AllBlank blanks.toList →
      instructionLines (a ++ blanks ++ "\n" ++ b) = instructionLines (a ++ "\n" ++ b) ∧
      instructionLines (a ++ "\n" ++ (blanks ++ b)) = instructionLines (a ++ "\n" ++ b)) ∧
    ∀ a b (c : Comment), (c.marker = .slashes → a.toList.getLast? ≠ some '/') →
      instructionLines (a ++ String.ofList c.chars ++ "\n" ++ b) = instructionLines (a ++ "\n" ++ b) := by
  refine ⟨instructionLines_append,?_,fun ls h => instructionLines_intercalate h,?_,?_⟩
  · intro source
    have hbare : ∀ line ∈ instructionLines source, Bare line.toList :=
      fun line hline => bare_of_mem_instructionLines hline
    exact ⟨hbare,instructionLines_intercalate hbare,decode_instructionLines_ne source⟩
  · intro a b blanks hblanks
    simp only [instructionLines_append]
    simp only [instructionLines, String.toList_append, contents_append_allBlank _ hblanks,
      contents_allBlank_append hblanks, and_self]
  · intro a b c hc
    simp only [instructionLines_append]
    simp only [instructionLines, String.toList_append, String.toList_ofList, contents_append_comment hc]

/-- Two instructions are loaded, and a carriage return and a comment with both marks in it change nothing. -/
theorem instructionLines_normal_comment :
    instructionLines ("iconst 1" ++ "\n" ++ "iadd") = ["iconst 1", "iadd"] ∧
    instructionLines ("iconst 1" ++ "\r" ++ "\n" ++ "iadd") = ["iconst 1", "iadd"] ∧
    instructionLines ("iconst 1" ++ String.ofList (Comment.chars ⟨.slashes,"#//".toList,by decide⟩) ++
      "\n" ++ "iadd") = ["iconst 1", "iadd"] := by
  obtain ⟨_,_,honto,hblanks,hcomment⟩ := instructionLines_normal
  have hbare : ∀ line ∈ ["iconst 1", "iadd"], Bare line.toList := by
    have htext : (Instruction.pushConstant 1).text = "iconst 1" := by decide +kernel
    rw [List.forall_mem_cons, List.forall_mem_singleton]
    exact ⟨htext ▸ bare_text (.pushConstant 1),bare_text .add⟩
  have hloaded : instructionLines ("iconst 1" ++ "\n" ++ "iadd") = ["iconst 1", "iadd"] := honto _ hbare
  have hreturn : AllBlank "\r".toList := List.forall_mem_singleton.mpr (by decide)
  exact ⟨hloaded,(hblanks "iconst 1" "iadd" "\r" hreturn).1.trans hloaded,
    (hcomment _ "iadd" _ fun _ => by decide).trans hloaded⟩

end Source
end StackMachine
