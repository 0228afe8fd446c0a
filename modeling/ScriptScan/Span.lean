import ScriptScan.Text

/-!
# ScriptScan.Span

Where a piece of source text lies: as a range of bytes, for cutting it out, and
as a line and column, for people.

* `Span.slice?_eq_some_iff` — the slice of a span is the middle part of the one
  decomposition of the source whose parts end at the span's bounds.
-/

namespace ScriptScan

/-- Byte offsets are words of 64 bits. -/
def offsetLimit : Nat := Nat.pow 2 64

/-- Lines and columns are words of 32 bits. -/
def countLimit : Nat := Nat.pow 2 32

/-- A range of bytes `[start, stop)` of a source, with the line and column of its
first character.  Lines and columns count from 1; line 0 stands for no location. -/
structure Span where
  start : Nat
  stop : Nat
  line : Nat
  column : Nat
  deriving DecidableEq

namespace Span

/-- The span of something that has no place in a source. -/
def nowhere : Span := ⟨0, 0, 0, 0⟩

/-- The source text that a span covers, if its bounds are in order and lie
between characters of the source. -/
def slice? (span : Span) (source : List Char) : Option (List Char) :=
  if span.start ≤ span.stop then do
    let (_, tail) ← Text.splitAtByte? span.start source
    let (middle, _) ← Text.splitAtByte? (span.stop - span.start) tail
    some middle
  else
    none

/-- A span covers `middle` exactly when the source is `middle` between a part of
`start` bytes and some other text, and `middle` takes the bytes up to `stop`. -/
theorem slice?_eq_some_iff {span : Span} {source middle : List Char} :
    span.slice? source = some middle ↔
      ∃ before after, source = before ++ middle ++ after ∧
        Text.byteLength before = span.start ∧
        Text.byteLength before + Text.byteLength middle = span.stop := by
  unfold slice?
  constructor
  · intro h
    split at h
    · rename_i hle
      obtain ⟨⟨before, tail⟩, h₁, h⟩ := Option.bind_eq_some_iff.1 h
      obtain ⟨⟨mid, after⟩, h₂, h⟩ := Option.bind_eq_some_iff.1 h
      obtain rfl : mid = middle := by simpa using h
      obtain ⟨hs, hb⟩ := Text.eq_of_splitAtByte? h₁
      obtain ⟨ht, hm⟩ := Text.eq_of_splitAtByte? h₂
      exact ⟨before, after, by simp [hs, ht], hb, by omega⟩
    · simp at h
  · rintro ⟨before, after, hs, hb, hm⟩
    have h₁ : Text.splitAtByte? span.start source = some (before, middle ++ after) :=
      Text.splitAtByte?_eq_some_iff.2 ⟨by simp [hs], hb⟩
    have h₂ : Text.splitAtByte? (span.stop - span.start) (middle ++ after) = some (middle, after) :=
      Text.splitAtByte?_eq_some_iff.2 ⟨rfl, by omega⟩
    rw [if_pos (by omega)]
    simp [h₁, h₂]

end Span

end ScriptScan
