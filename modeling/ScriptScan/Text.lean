/-!
# ScriptScan.Text

Source text is a list of characters.  Offsets into it count the bytes of its
UTF-8 form, so a cut at an offset exists only between two characters.

* `splitAtByte?_eq_some_iff` — a cut at `n` is the one way to write the text as
  two parts of which the first has `n` bytes;
* `firstLine`, `lastLine` — the parts of a text next to a cut that lie on the
  same line as the cut.
-/

namespace ScriptScan.Text

/-! ## bytes -/

/-- The number of bytes of a text in UTF-8. -/
def byteLength : List Char → Nat
  | [] => 0
  | c :: cs => c.utf8Size + byteLength cs

@[simp] theorem byteLength_nil : byteLength [] = 0 := rfl

@[simp] theorem byteLength_cons (c : Char) (cs : List Char) :
    byteLength (c :: cs) = c.utf8Size + byteLength cs := rfl

@[simp] theorem byteLength_append (xs ys : List Char) :
    byteLength (xs ++ ys) = byteLength xs + byteLength ys := by
  induction xs with
  | nil => simp
  | cons c cs ih => simp [ih, Nat.add_assoc]

/-- Every character takes at least one byte. -/
theorem length_le_byteLength (cs : List Char) : cs.length ≤ byteLength cs := by
  induction cs with
  | nil => simp
  | cons c cs ih =>
    have := c.utf8Size_pos
    simp only [List.length_cons, byteLength_cons]
    omega

/-- Every character takes at most four bytes. -/
theorem byteLength_le (cs : List Char) : byteLength cs ≤ 4 * cs.length := by
  induction cs with
  | nil => exact Nat.le_refl 0
  | cons c cs ih =>
    have hc := c.utf8Size_le_four
    rw [byteLength_cons, List.length_cons]
    omega

/-- Cuts a text after its first `n` bytes.  There is no such cut inside a
character or past the end. -/
def splitAtByte? : Nat → List Char → Option (List Char × List Char)
  | 0, cs => some ([], cs)
  | _ + 1, [] => none
  | n + 1, c :: cs =>
    if c.utf8Size ≤ n + 1 then
      (splitAtByte? (n + 1 - c.utf8Size) cs).map fun (before, after) => (c :: before, after)
    else
      none

/-- A cut after the bytes of `xs` separates `xs` from what follows it. -/
theorem splitAtByte?_append (xs ys : List Char) :
    splitAtByte? (byteLength xs) (xs ++ ys) = some (xs, ys) := by
  induction xs with
  | nil => simp [splitAtByte?]
  | cons c cs ih =>
    have hc := c.utf8Size_pos
    obtain ⟨n, hn⟩ : ∃ n, byteLength (c :: cs) = n + 1 :=
      ⟨byteLength (c :: cs) - 1, by simp only [byteLength_cons]; omega⟩
    have hsub : n + 1 - c.utf8Size = byteLength cs := by
      rw [← hn, byteLength_cons]; omega
    have hle : c.utf8Size ≤ n + 1 := by rw [← hn, byteLength_cons]; omega
    simp only [List.cons_append, hn, splitAtByte?, if_pos hle, hsub, ih, Option.map_some]

/-- The parts on both sides of a cut make up the text, and the first one has the
bytes that were asked for. -/
theorem eq_of_splitAtByte? {n : Nat} {cs before after : List Char}
    (h : splitAtByte? n cs = some (before, after)) :
    cs = before ++ after ∧ byteLength before = n := by
  fun_induction splitAtByte? n cs generalizing before after with
  | case1 cs => simp_all
  | case2 => simp at h
  | case3 n c cs hle ih =>
    obtain ⟨⟨b, a⟩, hs, heq⟩ := Option.map_eq_some_iff.1 h
    obtain ⟨rfl, rfl⟩ := Prod.mk.inj heq
    obtain ⟨hcs, hb⟩ := ih hs
    exact ⟨by simp [hcs], by simp only [byteLength_cons, hb]; omega⟩
  | case4 => simp at h

/-- A cut after `n` bytes exists exactly where a first part of `n` bytes does. -/
theorem splitAtByte?_eq_some_iff {n : Nat} {cs before after : List Char} :
    splitAtByte? n cs = some (before, after) ↔ cs = before ++ after ∧ byteLength before = n :=
  ⟨eq_of_splitAtByte?, fun ⟨hcs, hn⟩ => by rw [hcs, ← hn]; exact splitAtByte?_append before after⟩

/-- Bytes tell the places of a text apart: a text is cut in one way only after so many. -/
theorem append_inj_of_byteLength {xs ys xs' ys' : List Char} (h : xs ++ ys = xs' ++ ys')
    (hbytes : byteLength xs = byteLength xs') : xs = xs' ∧ ys = ys' := by
  have hcut := splitAtByte?_append xs ys
  rw [h, hbytes, splitAtByte?_append] at hcut
  obtain ⟨hxs, hys⟩ := Prod.mk.inj (Option.some.inj hcut)
  exact ⟨hxs.symm, hys.symm⟩

/-! ## lines -/

/-- The part of a text before its first line feed. -/
def firstLine (text : List Char) : List Char := text.takeWhile (· ≠ '\n')

/-- The part of a text after its last line feed. -/
def lastLine (text : List Char) : List Char := (text.reverse.takeWhile (· ≠ '\n')).reverse

/-- Drops every carriage return at the end of a text. -/
def trimReturns (text : List Char) : List Char := (text.reverse.dropWhile (· = '\r')).reverse

/-- Drops one carriage return at the end of a text. -/
def trimReturn (text : List Char) : List Char :=
  if text.getLast? = some '\r' then text.dropLast else text

end ScriptScan.Text
