import ScriptScan.Cursor.Session
import ScriptScan.Proofs.Reading

/-!
# ScriptScan.Proofs.Soundness

What holds of a cursor whatever it is asked to do.

Every reader, on whatever character it is used, does no more than pass over characters one
after the other, some of them as separators.  So there are two steps to look at.

* `Cursor.Sound` — the place of a cursor is that between what it has read and what is left,
  and line and column together have grown by one at most with each character;
* `Cursor.Moves` — any number of steps; `Moves.sound`, `Moves.offset_le`, `Moves.line_le`
  say what they keep;
* `Session.handle_cases` — what one request can do to a session, and `Session.Sound.after`
  what holds after any number of them, if none breaks off;
* `Sound.lexeme?_eq` — the text behind a mark is the slice of the span from the mark.
-/

namespace ScriptScan

/-! ## one character -/

namespace Place

variable {place : Place}

theorem line_le_next (place : Place) (c : Char) : place.line ≤ (place.next c).line :=
  line_next place c ▸ Nat.le_add_right _ _

theorem one_le_column_next (place : Place) (c : Char) : 1 ≤ (place.next c).column := by
  unfold next newLine
  split <;> simp

theorem line_le_nextSeparator (rule : LineRule) (place : Place) (c : Char) :
    place.line ≤ (place.nextSeparator rule c).line := by
  unfold nextSeparator
  split
  · exact Nat.le_succ_of_le (line_le_next place c)
  · exact line_le_next place c

theorem one_le_column_nextSeparator (rule : LineRule) (place : Place) (c : Char) :
    1 ≤ (place.nextSeparator rule c).column := by
  unfold nextSeparator
  split
  · exact Nat.le_refl 1
  · exact one_le_column_next place c

/-- A separator, too, adds at most one to the sum of line and column: where it ends the
line, the column goes back to 1. -/
theorem line_add_column_nextSeparator_le (h : 1 ≤ place.column) (rule : LineRule) (c : Char) :
    (place.nextSeparator rule c).line + (place.nextSeparator rule c).column ≤
      place.line + place.column + 1 := by
  unfold nextSeparator
  split
  · next hends =>
    have hline := line_next place c
    rw [if_neg hends.1] at hline
    simp only [newLine]
    omega
  · exact line_add_column_next_le h c

end Place

namespace Cursor

variable {cursor first last : Cursor}

/-- What holds of a cursor at any time: its place is that between what was read and what is
left, counted from 1, and no character has moved line and column together by more than
one. -/
structure Sound (cursor : Cursor) : Prop where
  source_eq : cursor.source = cursor.consumed ++ cursor.rest
  offset_eq : cursor.place.offset = Text.byteLength cursor.consumed
  one_le_line : 1 ≤ cursor.place.line
  one_le_column : 1 ≤ cursor.place.column
  line_add_column_le :
    cursor.place.line + cursor.place.column ≤ 2 + cursor.consumed.length

theorem sound_start (rule : LineRule) (source : List Char) : (start rule source).Sound := by
  have hconsumed : (start rule source).consumed = [] := by simp [consumed, start]
  refine ⟨?_, ?_, Nat.le_refl 1, Nat.le_refl 1, Nat.le_add_right 2 _⟩ <;> rw [hconsumed] <;> rfl

/-- What stands before the rest of the source was read. -/
theorem consumed_eq {text : List Char} (h : cursor.source = text ++ cursor.rest) :
    cursor.consumed = text := by
  rw [consumed, h, List.length_append, Nat.add_sub_cancel, List.take_left]

namespace Sound

/-- A step over one character keeps a cursor sound, if it keeps the place in step with what
was read. -/
theorem step (h : cursor.Sound) {c : Char} {cs : List Char} (hrest : cursor.rest = c :: cs)
    {place : Place} (hoffset : place.offset = cursor.place.offset + c.utf8Size)
    (hline : cursor.place.line ≤ place.line) (hcolumn : 1 ≤ place.column)
    (hsum : place.line + place.column ≤ cursor.place.line + cursor.place.column + 1) :
    ({ cursor with rest := cs, place } : Cursor).Sound := by
  have hsource : cursor.source = (cursor.consumed ++ [c]) ++ cs := by
    have hall := h.source_eq
    rwa [hrest, List.append_cons] at hall
  have hconsumed : ({ cursor with rest := cs, place } : Cursor).consumed =
      cursor.consumed ++ [c] := consumed_eq hsource
  refine ⟨?_, ?_, Nat.le_trans h.one_le_line hline, hcolumn, ?_⟩ <;> rw [hconsumed]
  · exact hsource
  · rw [Text.byteLength_append, ← h.offset_eq]
    exact hoffset
  · have hle := h.line_add_column_le
    rw [List.length_append, List.length_singleton]
    exact Nat.le_trans hsum (Nat.succ_le_succ hle)

theorem advance (h : cursor.Sound) : cursor.advance.Sound := by
  cases hrest : cursor.rest with
  | nil => rwa [Cursor.advance, hrest]
  | cons c cs =>
      rw [advance_eq hrest]
      exact h.step hrest (Place.offset_next _ c) (Place.line_le_next _ c)
        (Place.one_le_column_next _ c) (Place.line_add_column_next_le h.one_le_column c)

theorem advanceSeparator (h : cursor.Sound) : cursor.advanceSeparator.Sound := by
  cases hrest : cursor.rest with
  | nil => rwa [Cursor.advanceSeparator, hrest]
  | cons c cs =>
      rw [advanceSeparator_eq hrest]
      exact h.step hrest (Place.offset_nextSeparator _ _ c) (Place.line_le_nextSeparator _ _ c)
        (Place.one_le_column_nextSeparator _ _ c)
        (Place.line_add_column_nextSeparator_le h.one_le_column _ c)

/-- The place of a cursor is one between two characters of its source. -/
theorem splitAtByte?_offset (h : cursor.Sound) :
    Text.splitAtByte? cursor.place.offset cursor.source = some (cursor.consumed, cursor.rest) :=
  Text.splitAtByte?_eq_some_iff.2 ⟨h.source_eq, h.offset_eq.symm⟩

/-- **Lexemes are slices**: the text from a mark to the cursor is the slice of the span from
the mark, whatever the mark; where the one does not exist, neither does the other. -/
theorem lexeme?_eq (h : cursor.Sound) (mark : Place) :
    cursor.lexeme? mark = (cursor.spanFrom mark).slice? cursor.source := by
  refine Option.ext fun text => ?_
  rw [lexeme?, sliceFrom?, Option.map_eq_some_iff, Span.slice?_eq_some_iff]
  constructor
  · rintro ⟨⟨before, text⟩, hcut, rfl⟩
    obtain ⟨hconsumed, hbytes⟩ := Text.eq_of_splitAtByte? hcut
    refine ⟨before, cursor.rest, ?_, hbytes, ?_⟩
    · rw [← hconsumed]
      exact h.source_eq
    · rw [← Text.byteLength_append, ← hconsumed]
      exact h.offset_eq.symm
  · rintro ⟨before, after, hsource, hbytes, hstop⟩
    have hlength : Text.byteLength (before ++ text) = Text.byteLength cursor.consumed := by
      rw [Text.byteLength_append, ← h.offset_eq]
      exact hstop
    obtain ⟨hconsumed, -⟩ :=
      Text.append_inj_of_byteLength (hsource.symm.trans h.source_eq) hlength
    exact ⟨(before, text), Text.splitAtByte?_eq_some_iff.2 ⟨hconsumed.symm, hbytes⟩, rfl⟩

end Sound

/-! ## any number of characters -/

/-- A cursor comes to stand where another one does by passing over characters, one after the
other, as text or as separators. -/
inductive Moves : Cursor → Cursor → Prop
  | refl {cursor : Cursor} : Moves cursor cursor
  | advance {first last : Cursor} (h : Moves first last) : Moves first last.advance
  | advanceSeparator {first last : Cursor} (h : Moves first last) :
      Moves first last.advanceSeparator

@[simp] theorem source_advance (cursor : Cursor) : cursor.advance.source = cursor.source := by
  unfold advance
  split <;> rfl

@[simp] theorem source_advanceSeparator (cursor : Cursor) :
    cursor.advanceSeparator.source = cursor.source := by
  unfold advanceSeparator
  split <;> rfl

theorem place_advance_le (cursor : Cursor) :
    cursor.place.offset ≤ cursor.advance.place.offset ∧
      cursor.place.line ≤ cursor.advance.place.line := by
  unfold advance
  split
  · exact ⟨Nat.le_refl _, Nat.le_refl _⟩
  · exact ⟨Place.offset_next _ _ ▸ Nat.le_add_right _ _, Place.line_le_next _ _⟩

theorem place_advanceSeparator_le (cursor : Cursor) :
    cursor.place.offset ≤ cursor.advanceSeparator.place.offset ∧
      cursor.place.line ≤ cursor.advanceSeparator.place.line := by
  unfold advanceSeparator
  split
  · exact ⟨Nat.le_refl _, Nat.le_refl _⟩
  · exact ⟨Place.offset_nextSeparator _ _ _ ▸ Nat.le_add_right _ _,
      Place.line_le_nextSeparator _ _ _⟩

namespace Moves

theorem trans {middle : Cursor} (h : Moves first middle) (h' : Moves middle last) :
    Moves first last := by
  induction h' with
  | refl => exact h
  | advance _ ih => exact ih.advance
  | advanceSeparator _ ih => exact ih.advanceSeparator

theorem sound (h : Moves first last) (hsound : first.Sound) : last.Sound := by
  induction h with
  | refl => exact hsound
  | advance _ ih => exact ih.advance
  | advanceSeparator _ ih => exact ih.advanceSeparator

theorem source_eq (h : Moves first last) : last.source = first.source := by
  induction h with
  | refl => rfl
  | advance _ ih => rw [source_advance, ih]
  | advanceSeparator _ ih => rw [source_advanceSeparator, ih]

theorem offset_le (h : Moves first last) : first.place.offset ≤ last.place.offset := by
  induction h with
  | refl => exact Nat.le_refl _
  | @advance last _ ih => exact Nat.le_trans ih last.place_advance_le.1
  | @advanceSeparator last _ ih => exact Nat.le_trans ih last.place_advanceSeparator_le.1

theorem line_le (h : Moves first last) : first.place.line ≤ last.place.line := by
  induction h with
  | refl => exact Nat.le_refl _
  | @advance last _ ih => exact Nat.le_trans ih last.place_advance_le.2
  | @advanceSeparator last _ ih => exact Nat.le_trans ih last.place_advanceSeparator_le.2

end Moves

/-! ## the readers move -/

/-- A run of characters is passed over one by one. -/
theorem eatWhile_of_pos {test : Char → Bool} {c : Char} {cs : List Char}
    (hrest : cursor.rest = c :: cs) (hc : test c = true) :
    cursor.eatWhile test = cursor.advance.eatWhile test := by
  rw [advance_eq hrest, eatWhile, eatWhile, hrest, List.dropWhile_cons_of_pos hc,
    List.takeWhile_cons_of_pos hc]
  rfl

/-- The run ends where the test fails, and at the end of the source. -/
theorem eatWhile_of_neg {test : Char → Bool}
    (h : ∀ c, cursor.rest.head? = some c → test c = false) : cursor.eatWhile test = cursor :=
  eatWhile_eq (List.nil_append _).symm (by simp) h

theorem moves_eatWhile (test : Char → Bool) (cursor : Cursor) :
    Moves cursor (cursor.eatWhile test) := by
  induction hrest : cursor.rest generalizing cursor with
  | nil =>
      rw [eatWhile_of_neg (by simp [hrest])]
      exact .refl
  | cons c cs ih =>
      by_cases hc : test c = true
      · rw [eatWhile_of_pos hrest hc]
        exact Moves.refl.advance.trans (ih _ (by rw [rest_advance, hrest, List.tail_cons]))
      · rw [eatWhile_of_neg (by simp [hrest, hc])]
        exact .refl

theorem moves_eat (expected : Char) (cursor : Cursor) :
    Moves cursor (cursor.eat expected).2 := by
  unfold eat
  split
  · exact Moves.refl.advance
  · exact .refl

theorem moves_readSingle (kind : Kind) (cursor : Cursor) :
    Moves cursor (cursor.readSingle kind).2 := by
  unfold readSingle
  by_cases hkind : kind = .ignore
  · simpa [hkind] using Moves.refl.advanceSeparator
  · simpa [hkind] using Moves.refl.advance

theorem moves_readComparison {found : Token × Cursor} (h : cursor.readComparison? = some found) :
    Moves cursor found.2 := by
  have heat := Moves.refl.advance.trans (moves_eat '=' cursor.advance)
  unfold readComparison? at h
  split at h
  · cases h
  · split at h <;> next heq => cases h; simpa [heq] using heat

theorem moves_readSlash (cursor : Cursor) : Moves cursor cursor.readSlash.2 := by
  have heat := Moves.refl.advance.trans (moves_eat '/' cursor.advance)
  unfold readSlash
  simp only
  split
  · next opened heq =>
    rw [heq] at heat
    exact heat.trans (moves_eatWhile _ opened)
  · next heq => simpa [heq] using heat

theorem moves_readString (cursor : Cursor) : Moves cursor cursor.readString.2 := by
  have hbody := Moves.refl.advance.trans (moves_eatWhile (· ≠ '"') cursor.advance)
  unfold readString
  simp only
  split
  · exact hbody
  · exact hbody.advance

theorem moves_readNumber (cursor : Cursor) : Moves cursor cursor.readNumber.2 := by
  have hrun := moves_eatWhile isNumeral cursor
  unfold readNumber
  simp only
  split <;> exact hrun

theorem moves_readWord (cursor : Cursor) : Moves cursor cursor.readWord.2 :=
  moves_eatWhile isWordChar cursor

/-! ## sessions -/

namespace Session

variable {session next last : Session} {request : Request} {reply : Reply} {rule : LineRule}
  {source : List Char}

/-- All cursors of a session are sound, and they read one source. -/
def Sound (source : List Char) (session : Session) : Prop :=
  ∀ cursor ∈ session.cursor :: session.saved, cursor.Sound ∧ cursor.source = source

/-- The reply to a reader that can find an error. -/
def replyOf : Except ScanError Token → Reply
  | .ok token => .token token
  | .error error => .error error

theorem readOrFail_eq (session : Session) (found : Except ScanError Token × Cursor) :
    session.readOrFail found = (replyOf found.1, session.moved found.2) := by
  obtain ⟨_ | _, _⟩ := found <;> rfl

/-- **What one request can do**, unless it breaks off: the cursor passes over characters, if
any; or it is remembered; or a remembered one takes its place. -/
theorem handle_cases (h : session.handle request = some (reply, next)) :
    (Moves session.cursor next.cursor ∧ next.saved = session.saved) ∨
      (request = .save ∧ next.cursor = session.cursor ∧
        next.saved = session.saved ++ [session.cursor]) ∨
      ∃ saved, request = .restore saved ∧ next.cursor ∈ session.saved ∧
        next.saved = session.saved := by
  cases request with
  | advance =>
      cases h
      exact .inl ⟨Moves.refl.advance, rfl⟩
  | advanceSeparator =>
      cases h
      exact .inl ⟨Moves.refl.advanceSeparator, rfl⟩
  | eatWhile test =>
      cases h
      exact .inl ⟨moves_eatWhile test _, rfl⟩
  | eat expected =>
      cases h
      exact .inl ⟨moves_eat expected _, rfl⟩
  | readSingle kind =>
      cases h
      exact .inl ⟨moves_readSingle kind _, rfl⟩
  | readSlash =>
      cases h
      exact .inl ⟨moves_readSlash _, rfl⟩
  | readWord =>
      cases h
      exact .inl ⟨moves_readWord _, rfl⟩
  | readString =>
      rw [handle, readOrFail_eq] at h
      cases h
      exact .inl ⟨moves_readString _, rfl⟩
  | readNumber =>
      rw [handle, readOrFail_eq] at h
      cases h
      exact .inl ⟨moves_readNumber _, rfl⟩
  | readComparison =>
      obtain ⟨found, hread, hanswer⟩ := Option.map_eq_some_iff.1 h
      cases hanswer
      exact .inl ⟨moves_readComparison hread, rfl⟩
  | save =>
      cases h
      exact .inr (.inl ⟨rfl, rfl, rfl⟩)
  | restore saved =>
      cases hsaved : session.saved[saved]? with
      | none =>
          simp only [handle, hsaved] at h
          cases h
          exact .inl ⟨.refl, rfl⟩
      | some cursor =>
          simp only [handle, hsaved] at h
          cases h
          exact .inr (.inr ⟨saved, rfl, List.mem_of_getElem? hsaved, rfl⟩)
  | mark | markAt | source =>
      cases h
      exact .inl ⟨.refl, rfl⟩
  | peek | sliceFrom =>
      obtain ⟨_, -, hanswer⟩ := Option.map_eq_some_iff.1 h
      cases hanswer
      exact .inl ⟨.refl, rfl⟩
  | spanFrom mark =>
      cases hmark : session.marks[mark]? <;> simp only [handle, hmark] at h <;> cases h <;>
        exact .inl ⟨.refl, rfl⟩
  | lexeme mark =>
      cases hmark : session.marks[mark]? with
      | none =>
          simp only [handle, hmark] at h
          cases h
          exact .inl ⟨.refl, rfl⟩
      | some place =>
          simp only [handle, hmark] at h
          obtain ⟨_, -, hanswer⟩ := Option.map_eq_some_iff.1 h
          cases hanswer
          exact .inl ⟨.refl, rfl⟩

theorem sound_start (rule : LineRule) (source : List Char) : (start rule source).Sound source := by
  intro cursor hmem
  obtain rfl := List.mem_singleton.1 hmem
  exact ⟨Cursor.sound_start rule source, rfl⟩

/-- One request keeps a session sound. -/
theorem Sound.handle (hsound : session.Sound source)
    (h : session.handle request = some (reply, next)) : next.Sound source := by
  have hcursor := hsound session.cursor List.mem_cons_self
  have hsaved : ∀ cursor ∈ session.saved, cursor.Sound ∧ cursor.source = source :=
    fun cursor hmem => hsound cursor (List.mem_cons_of_mem _ hmem)
  rw [Sound, List.forall_mem_cons]
  rcases handle_cases h with ⟨hmoves, heq⟩ | ⟨-, hsame, heq⟩ | ⟨_, -, hmem, heq⟩
  · exact ⟨⟨hmoves.sound hcursor.1, hmoves.source_eq.trans hcursor.2⟩, heq ▸ hsaved⟩
  · rw [hsame, heq]
    refine ⟨hcursor, fun cursor hmem => ?_⟩
    rcases List.mem_append.1 hmem with hmem | hmem
    · exact hsaved cursor hmem
    · exact List.mem_singleton.1 hmem ▸ hcursor
  · exact ⟨hsaved _ hmem, heq ▸ hsaved⟩

/-- **Requests keep a session sound**, whatever they are and in whatever order. -/
theorem Sound.after {requests : List Request} (hsound : session.Sound source)
    (h : session.after requests = some last) : last.Sound source := by
  induction requests generalizing session with
  | nil =>
      cases h
      exact hsound
  | cons request requests ih =>
      obtain ⟨⟨reply, next⟩, hnext, hafter⟩ := Option.bind_eq_some_iff.1 h
      exact ih (hsound.handle hnext) hafter

/-- Behind a request that breaks off no session comes back. -/
theorem after_eq_none {requests : List Request} (h : session.after requests = some last)
    (hbreak : last.handle request = none) (later : List Request) :
    session.after (requests ++ request :: later) = none := by
  induction requests generalizing session with
  | nil =>
      cases h
      rw [List.nil_append, after, hbreak, Option.bind_none]
  | cons first requests ih =>
      obtain ⟨⟨reply, next⟩, hnext, hafter⟩ := Option.bind_eq_some_iff.1 h
      rw [List.cons_append, after, hnext]
      exact ih hafter

/-- After requests the cursor is sound, and it reads the source it was started on. -/
theorem sound_cursor_of_after {requests : List Request}
    (h : (start rule source).after requests = some session) :
    session.cursor.Sound ∧ session.cursor.source = source :=
  (sound_start rule source).after h _ List.mem_cons_self

/-- Only going back to a remembered cursor makes a cursor stand further up. -/
theorem place_handle_le (h : session.handle request = some (reply, next))
    (hrestore : ∀ saved, request ≠ .restore saved) :
    session.cursor.place.offset ≤ next.cursor.place.offset ∧
      session.cursor.place.line ≤ next.cursor.place.line := by
  rcases handle_cases h with ⟨hmoves, -⟩ | ⟨-, hsame, -⟩ | ⟨saved, hrequest, -⟩
  · exact ⟨hmoves.offset_le, hmoves.line_le⟩
  · rw [hsame]
    exact ⟨Nat.le_refl _, Nat.le_refl _⟩
  · exact absurd hrequest (hrestore saved)

end Session

end Cursor

end ScriptScan
