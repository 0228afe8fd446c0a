import Mathlib.Data.List.DropRight
import ScriptScan.Proofs.Location

/-!
# ScriptScan.Proofs.Lines

The line on which two parts of a text meet.

* `getElem?_splitOn` — of all lines of a text, it is the one behind as many line feeds as
  the first part has;
* `Place.line_past_start`, `Place.column_past_start` — the place behind the first part
  counts them, and what the first part has on that line;
* `IsLineAround.unique`, `exists_isLineAround` — it is the one whole line around the byte
  where the parts meet;
* `trimReturns_append`, `exists_eq_trimReturns_append` — what is left of a line without
  the carriage returns at its end.
-/

namespace ScriptScan

namespace Text

variable {text before after line pre post pre' line' post' : List Char} {start : Nat}

/-! ## first and last lines -/

theorem firstLine_append_of_not_mem (h : '\n' ∉ before) (after : List Char) :
    firstLine (before ++ after) = before ++ firstLine after :=
  List.takeWhile_append_of_pos fun c hc => by simpa using fun heq : c = '\n' => h (heq ▸ hc)

theorem lastLine_of_not_mem (h : '\n' ∉ text) : lastLine text = text := by
  have hall : text.reverse.takeWhile (· ≠ '\n') = text.reverse :=
    List.takeWhile_eq_self_iff.2 fun c hc => by
      simpa using fun heq : c = '\n' => h (heq ▸ List.mem_reverse.1 hc)
  rw [lastLine, hall, List.reverse_reverse]

theorem not_mem_firstLine (text : List Char) : '\n' ∉ firstLine text := fun hmem => by
  simpa using List.mem_takeWhile_imp hmem

theorem not_mem_lastLine (text : List Char) : '\n' ∉ lastLine text := fun hmem => by
  simpa using List.mem_takeWhile_imp (List.mem_reverse.1 hmem)

theorem firstLine_eq_nil_iff : firstLine text = [] ↔ text = [] ∨ text.head? = some '\n' := by
  cases text <;> simp [firstLine]

/-- Behind the first line a text is over, or a line feed stands there. -/
theorem exists_eq_firstLine_append (text : List Char) :
    ∃ post, text = firstLine text ++ post ∧ (post = [] ∨ post.head? = some '\n') := by
  refine ⟨text.dropWhile (· ≠ '\n'), List.takeWhile_append_dropWhile.symm, ?_⟩
  rw [← firstLine_eq_nil_iff, firstLine, List.takeWhile_eq_nil_iff]
  exact fun h => List.dropWhile_get_zero_not _ _ h

/-- Before the last line there is nothing, or a line feed stands there. -/
theorem exists_eq_append_lastLine (text : List Char) :
    ∃ pre, text = pre ++ lastLine text ∧ (pre = [] ∨ pre.getLast? = some '\n') := by
  obtain ⟨post, htext, hpost⟩ := exists_eq_firstLine_append text.reverse
  refine ⟨post.reverse, ?_, ?_⟩
  · rw [lastLine, ← firstLine, ← List.reverse_append, ← htext, List.reverse_reverse]
  · simpa using hpost

/-- Only what stands behind the last line feed is on the last line. -/
theorem lastLine_cons (c : Char) (text : List Char) :
    lastLine (c :: text) =
      if c = '\n' ∨ '\n' ∈ text then lastLine text else c :: text := by
  by_cases hmem : '\n' ∈ text
  · have hshort : (text.reverse.takeWhile (· ≠ '\n')).length ≠ text.reverse.length := fun hlength =>
      have hall := List.takeWhile_eq_self_iff.1
        ((List.takeWhile_prefix _).eq_of_length hlength)
      absurd (hall '\n' (List.mem_reverse.2 hmem)) (by decide)
    rw [if_pos (.inr hmem), lastLine, List.reverse_cons, List.takeWhile_append, if_neg hshort]
    rfl
  · by_cases hc : c = '\n'
    · have hline := lastLine_of_not_mem hmem
      rw [if_pos (.inl hc), hline]
      have hall : ∀ x ∈ text.reverse, decide (x ≠ '\n') = true := fun x hx => by
        simpa using fun heq : x = '\n' => hmem (heq ▸ List.mem_reverse.1 hx)
      rw [lastLine, List.reverse_cons, List.takeWhile_append_of_pos hall]
      simp [hc]
    · rw [if_neg (by simp [hc, hmem])]
      exact lastLine_of_not_mem (by simp [hmem, Ne.symm hc])

/-! ## the lines of a text -/

/-- The first of the lines of a text. -/
theorem getElem?_splitOn_zero (text : List Char) :
    (text.splitOn '\n')[0]? = some (firstLine text) := by
  rw [List.splitOn_eq_splitOnP]
  induction text with
  | nil => rfl
  | cons c text ih =>
      rw [List.splitOnP_cons_eq_if_modifyHead]
      by_cases hc : c = '\n'
      · simp [hc, firstLine]
      · rw [if_neg (by simpa using hc), List.getElem?_modifyHead, if_pos rfl, ih]
        simp [firstLine, hc]

/-- **The line on which two parts meet** is the one behind the line feeds of the first. -/
theorem getElem?_splitOn (before after : List Char) :
    ((before ++ after).splitOn '\n')[before.count '\n']? =
      some (lastLine before ++ firstLine after) := by
  induction before with
  | nil => exact getElem?_splitOn_zero after
  | cons c before ih =>
      rw [List.splitOn_eq_splitOnP] at ih ⊢
      rw [List.cons_append, List.splitOnP_cons_eq_if_modifyHead, List.count_cons, lastLine_cons]
      by_cases hc : c = '\n'
      · simp [hc, ih]
      · rw [if_neg (by simpa using hc), if_neg (by simpa using hc), Nat.add_zero,
          List.getElem?_modifyHead]
        by_cases hmem : '\n' ∈ before
        · have hcount : before.count '\n' ≠ 0 := (List.count_pos_iff.2 hmem).ne'
          rw [if_neg hcount, if_pos (.inr hmem), ih]
        · rw [if_pos (List.count_eq_zero.2 hmem), if_neg (by simp [hc, hmem]), ih,
            lastLine_of_not_mem hmem]
          rfl

/-! ## the line around a byte -/

/-- A whole line of a text, between what comes before and after it, and a byte that lies on
the line or at its end. -/
structure IsLineAround (text : List Char) (start : Nat) (pre line post : List Char) : Prop where
  text_eq : text = pre ++ line ++ post
  not_mem : '\n' ∉ line
  pre_eq : pre = [] ∨ pre.getLast? = some '\n'
  post_eq : post = [] ∨ post.head? = some '\n'
  le_start : byteLength pre ≤ start
  start_le : start ≤ byteLength pre + byteLength line

namespace IsLineAround

/-- Of two lines around a byte neither starts behind the other. -/
theorem length_le (h : IsLineAround text start pre line post)
    (h' : IsLineAround text start pre' line' post') : pre'.length ≤ pre.length := by
  by_contra hlt
  have htext : pre ++ (line ++ post) = pre' ++ (line' ++ post') := by
    rw [← List.append_assoc, ← List.append_assoc, ← h.text_eq, h'.text_eq]
  obtain ⟨gap, rfl, hgap⟩ | ⟨gap, rfl, -⟩ := List.append_eq_append_iff.1 htext
  · -- the later line has the line feed before it behind the end of the earlier one
    have hne : gap ≠ [] := fun hnil => hlt (by simp [hnil])
    have hfeed : '\n' ∈ gap := by
      have hlast := h'.pre_eq.resolve_left (by simp [hne])
      rw [List.getLast?_append_of_ne_nil _ hne] at hlast
      exact List.mem_of_getLast? hlast
    obtain ⟨rest, rfl, -⟩ | ⟨rest, rfl, -⟩ := List.append_eq_append_iff.1 hgap
    · have hrest : 1 ≤ byteLength rest := by
        have hmem := (List.mem_append.1 hfeed).resolve_left h.not_mem
        exact (List.length_pos_of_mem hmem).trans_le (length_le_byteLength rest)
      have hle := h'.le_start.trans h.start_le
      simp only [byteLength_append] at hle
      omega
    · exact h.not_mem (List.mem_append_left _ hfeed)
  · exact hlt (by simp)

/-- **A byte lies on one line only.** -/
theorem unique (h : IsLineAround text start pre line post)
    (h' : IsLineAround text start pre' line' post') :
    pre' = pre ∧ line' = line ∧ post' = post := by
  have htext : pre' ++ (line' ++ post') = pre ++ (line ++ post) := by
    rw [← List.append_assoc, ← List.append_assoc, ← h.text_eq, h'.text_eq]
  obtain ⟨rfl, hrest⟩ := List.append_inj htext (Nat.le_antisymm (h.length_le h') (h'.length_le h))
  have hline : line' = line := by
    have hfirst := congrArg firstLine hrest
    rwa [firstLine_append_of_not_mem h'.not_mem, firstLine_append_of_not_mem h.not_mem,
      firstLine_eq_nil_iff.2 h'.post_eq, firstLine_eq_nil_iff.2 h.post_eq, List.append_nil,
      List.append_nil] at hfirst
  subst hline
  exact ⟨rfl, rfl, List.append_cancel_left hrest⟩

end IsLineAround

/-- The line on which two parts of a text meet lies around the byte where they meet. -/
theorem exists_isLineAround (before after : List Char) :
    ∃ pre post, before = pre ++ lastLine before ∧ after = firstLine after ++ post ∧
      IsLineAround (before ++ after) (byteLength before) pre
        (lastLine before ++ firstLine after) post := by
  obtain ⟨pre, hbefore, hpre⟩ := exists_eq_append_lastLine before
  obtain ⟨post, hafter, hpost⟩ := exists_eq_firstLine_append after
  have hbytes : byteLength before = byteLength pre + byteLength (lastLine before) := by
    rw [← byteLength_append, ← hbefore]
  refine ⟨pre, post, hbefore, hafter, ?_, ?_, hpre, hpost, ?_, ?_⟩
  · calc before ++ after = (pre ++ lastLine before) ++ (firstLine after ++ post) := by
          rw [← hbefore, ← hafter]
      _ = pre ++ (lastLine before ++ firstLine after) ++ post := by simp
  · simp [not_mem_lastLine, not_mem_firstLine]
  · omega
  · rw [byteLength_append]
    omega

/-! ## carriage returns at the end of a line -/

/-- What is trimmed off a text are carriage returns, and none is left at the end. -/
theorem exists_eq_trimReturns_append (text : List Char) :
    (∃ n, text = trimReturns text ++ List.replicate n '\r') ∧
      (trimReturns text).getLast? ≠ some '\r' := by
  have htrim : trimReturns text = text.rdropWhile (· = '\r') := rfl
  refine ⟨⟨(text.rtakeWhile (· = '\r')).length, ?_⟩, fun hlast => ?_⟩
  · have hreturns : ∀ c ∈ text.rtakeWhile (· = '\r'), c = '\r' := fun c hc => by
      simpa using List.mem_rtakeWhile_imp hc
    rw [htrim, ← List.eq_replicate_of_mem hreturns, List.rdropWhile_append_rtakeWhile]
  · obtain ⟨init, heq⟩ := List.getLast?_eq_some_iff.1 hlast
    rw [htrim] at heq
    have hne : text.rdropWhile (· = '\r') ≠ [] := by simp [heq]
    have hnot := List.rdropWhile_last_not (· = '\r') text hne
    simp [heq] at hnot

/-- Carriage returns are trimmed off the end alone. -/
theorem trimReturns_append (h : before.getLast? ≠ some '\r') (after : List Char) :
    trimReturns (before ++ after) = before ++ trimReturns after := by
  have hbefore : before.reverse.dropWhile (· = '\r') = before.reverse := by
    rw [List.getLast?_eq_head?_reverse] at h
    cases hrev : before.reverse with
    | nil => rfl
    | cons c cs =>
        rw [hrev] at h
        exact List.dropWhile_cons_of_neg (by simpa using h)
  rw [trimReturns, trimReturns, List.reverse_append, List.dropWhile_append]
  split
  · next hnil =>
    rw [hbefore, List.isEmpty_iff.1 hnil]
    simp
  · simp

/-- What is left of a line is told by the line. -/
theorem trimReturns_append_replicate (h : text.getLast? ≠ some '\r') (n : Nat) :
    trimReturns (text ++ List.replicate n '\r') = text := by
  rw [trimReturns_append h]
  simp [trimReturns]

/-- Of several carriage returns at the end one is dropped. -/
theorem trimReturn_append_replicate (h : text.getLast? ≠ some '\r') (n : Nat) :
    trimReturn (text ++ List.replicate n '\r') = text ++ List.replicate (n - 1) '\r' := by
  cases n with
  | zero => simp [trimReturn, h]
  | succ n =>
      rw [List.replicate_succ', ← List.append_assoc, trimReturn, List.getLast?_concat, if_pos rfl,
        List.dropLast_concat, Nat.add_sub_cancel]

end Text

/-! ## lines and columns of places -/

namespace Place

/-- The line behind a text is the one behind its line feeds. -/
theorem line_past_start (text : List Char) :
    (Place.past {} text).line - 1 = text.count '\n' := by
  rw [line_past]
  exact Nat.add_sub_cancel_left 1 _

/-- The column behind a text counts what the text has on its last line. -/
theorem column_past_start (text : List Char) :
    (Place.past {} text).column - 1 = (Text.lastLine text).length := by
  have hcounts := Counts.start.past text
  rw [List.nil_append] at hcounts
  rw [hcounts.column_eq, Nat.add_sub_cancel_left, ← List.map_reverse, List.takeWhile_map,
    List.length_map, Text.lastLine, List.length_reverse]
  congr 2
  funext c
  simp [beq_eq_decide]

end Place

end ScriptScan
