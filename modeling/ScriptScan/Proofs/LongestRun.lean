import ScriptScan.Proofs.Lines
import ScriptScan.Proofs.Peeking

/-!
# ScriptScan.Proofs.LongestRun

What a cursor passes over while a test holds.

A machine passes over characters one by one.  In front of each it asks whether the source is
over, and then tries the character that it finds in the bytes.  So the end of the source and
a null character in it, which look the same to the test, are kept apart.

* `IsLongestRun` — the longest first part of a text that passes a test;
* `Place.column_past` — the column behind a text, and what it counts from;
* `Registers.EatsWhile` — the loop of a machine, with the number of its rounds;
* `Fits.eatsWhile_iff` — it ends, with one round for each character of the run;
* `eatWhile_takes_longest_run` — all of it for a cursor, whatever it was asked before.
-/

namespace ScriptScan

/-! ## longest runs -/

/-- The longest first part of a text whose characters all pass a test. -/
structure IsLongestRun (test : Char → Bool) (text run : List Char) : Prop where
  starts : run <+: text
  passes : ∀ c ∈ run, test c = true
  longest : ∀ other, other <+: text → (∀ c ∈ other, test c = true) → other <+: run

theorem isLongestRun_takeWhile (test : Char → Bool) (text : List Char) :
    IsLongestRun test text (text.takeWhile test) := by
  refine ⟨List.takeWhile_prefix test, fun c hc => List.mem_takeWhile_imp hc, ?_⟩
  rintro other ⟨more, rfl⟩ hpass
  rw [List.takeWhile_append_of_pos hpass]
  exact List.prefix_append _ _

/-! ## columns -/

namespace Place

/-- A text without a line feed moves the column by its characters. -/
theorem column_past_of_not_mem (place : Place) {text : List Char} (h : '\n' ∉ text) :
    (place.past text).column = place.column + text.length := by
  induction text generalizing place with
  | nil => rfl
  | cons c cs ih =>
      rw [List.mem_cons, not_or] at h
      rw [past_cons, ih (place.next c) h.2, next, if_neg (Ne.symm h.1), List.length_cons]
      exact Nat.add_right_comm place.column 1 cs.length

/-- Behind a line feed the column counts from it. -/
theorem column_past_append (place : Place) (init : List Char) {line : List Char}
    (h : '\n' ∉ line) : (place.past (init ++ '\n' :: line)).column = 1 + line.length := by
  rw [past_append, past_cons, column_past_of_not_mem _ h]
  rfl

/-- A text moves the column by its characters, or there is a last line feed in it and the
column counts from that. -/
theorem column_past (place : Place) (text : List Char) :
    '\n' ∉ text ∧ (place.past text).column = place.column + text.length ∨
      ∃ init line, text = init ++ '\n' :: line ∧ '\n' ∉ line ∧
        (place.past text).column = 1 + line.length := by
  obtain ⟨pre, htext, rfl | hlast⟩ := Text.exists_eq_append_lastLine text
  · have hfeed : '\n' ∉ text := htext ▸ Text.not_mem_lastLine text
    exact .inl ⟨hfeed, place.column_past_of_not_mem hfeed⟩
  · obtain ⟨init, rfl⟩ := List.getLast?_eq_some_iff.1 hlast
    have hfeed := Text.not_mem_lastLine text
    generalize Text.lastLine text = line at htext hfeed
    rw [List.append_assoc] at htext
    exact .inr ⟨init, line, htext, hfeed, htext ▸ place.column_past_append init hfeed⟩

end Place

namespace Cursor

/-! ## the loop, round by round -/

namespace Registers

/-- The loop that passes over characters while they satisfy a test, with the number of its
rounds.  It stops at the end of the source, and in front of a character that fails the test.
A loop that fails in a round, or never stops, leads nowhere. -/
inductive EatsWhile (test : Char → Bool) : Registers → Nat → Registers → Prop
  | ended {registers : Registers} (hend : registers.atEnd = true) :
      EatsWhile test registers 0 registers
  | stopped {registers : Registers} {c : Char} (hend : registers.atEnd = false)
      (hc : registers.charAt? 0 = some c) (htest : test c = false) :
      EatsWhile test registers 0 registers
  | round {registers moved last : Registers} {c : Char} {rounds : Nat}
      (hend : registers.atEnd = false) (hc : registers.charAt? 0 = some c)
      (htest : test c = true) (hmoved : registers.advance? = some moved)
      (h : EatsWhile test moved rounds last) : EatsWhile test registers (rounds + 1) last

section

variable {test : Char → Bool} {registers moved last : Registers} {c : Char} {rounds : Nat}

theorem eatsWhile_iff_of_atEnd (hend : registers.atEnd = true) :
    EatsWhile test registers rounds last ↔ rounds = 0 ∧ last = registers := by
  constructor
  · intro h
    cases h with
    | ended => exact ⟨rfl, rfl⟩
    | stopped hmore | round hmore =>
        rw [hend] at hmore
        cases hmore
  · rintro ⟨rfl, rfl⟩
    exact .ended hend

theorem eatsWhile_iff_of_neg (hend : registers.atEnd = false) (hc : registers.charAt? 0 = some c)
    (htest : test c = false) :
    EatsWhile test registers rounds last ↔ rounds = 0 ∧ last = registers := by
  constructor
  · intro h
    cases h with
    | ended | stopped => exact ⟨rfl, rfl⟩
    | round _ hfound hpass =>
        obtain rfl := Option.some_inj.1 (hc.symm.trans hfound)
        rw [htest] at hpass
        cases hpass
  · rintro ⟨rfl, rfl⟩
    exact .stopped hend hc htest

theorem eatsWhile_iff_of_pos (hend : registers.atEnd = false) (hc : registers.charAt? 0 = some c)
    (htest : test c = true) (hmoved : registers.advance? = some moved) :
    EatsWhile test registers rounds last ↔
      ∃ others, rounds = others + 1 ∧ EatsWhile test moved others last := by
  constructor
  · intro h
    cases h with
    | ended hover =>
        rw [hend] at hover
        cases hover
    | stopped _ hfound hfail =>
        obtain rfl := Option.some_inj.1 (hc.symm.trans hfound)
        rw [htest] at hfail
        cases hfail
    | round _ _ _ hnext h =>
        obtain rfl := Option.some_inj.1 (hmoved.symm.trans hnext)
        exact ⟨_, rfl, h⟩
  · rintro ⟨others, rfl, h⟩
    exact .round hend hc htest hmoved h

end

end Registers

variable {cursor : Cursor}

/-- What is found in the bytes is the next character. -/
theorem Fits.charAt?_zero (h : cursor.Fits) {c : Char} {cs : List Char}
    (hrest : cursor.rest = c :: cs) : cursor.registers.charAt? 0 = some c := by
  have hword := Nat.lt_of_le_of_lt (Nat.le_add_right _ _) (h.add_lt hrest).1
  rw [charAt?_registers, h.sound.peek?_zero hword, current_eq hrest]

/-- **The loop ends**, with one round for each character of the run, and where the cursor
stands behind the run.  It ends in no other way. -/
theorem Fits.eatsWhile_iff (h : cursor.Fits) {test : Char → Bool} {rounds : Nat}
    {last : Registers} :
    cursor.registers.EatsWhile test rounds last ↔
      rounds = (cursor.rest.takeWhile test).length ∧
        last = (cursor.eatWhile test).registers := by
  have hatEnd := h.sound.atEnd_registers
  -- by what is left: each round takes one character of it, and there is room to count that
  induction hrest : cursor.rest generalizing cursor rounds with
  | nil =>
      rw [atEnd, hrest] at hatEnd
      rw [Registers.eatsWhile_iff_of_atEnd hatEnd, eatWhile_of_neg (by simp [hrest])]
      rfl
  | cons c cs ih =>
      rw [atEnd, hrest] at hatEnd
      have hc := h.charAt?_zero hrest
      cases htest : test c with
      | false =>
          rw [Registers.eatsWhile_iff_of_neg hatEnd hc htest,
            eatWhile_of_neg (by simp [hrest, htest]),
            List.takeWhile_cons_of_neg (by simp [htest])]
          rfl
      | true =>
          have hmoved := h.moves Moves.refl.advance
          have hrun : ∀ others, cursor.advance.registers.EatsWhile test others last ↔
              others = (cs.takeWhile test).length ∧
                last = (cursor.advance.eatWhile test).registers := fun others =>
            ih hmoved hmoved.sound.atEnd_registers (by rw [rest_advance, hrest, List.tail_cons])
          rw [Registers.eatsWhile_iff_of_pos hatEnd hc htest h.advance?_registers,
            eatWhile_of_pos hrest htest, List.takeWhile_cons_of_pos htest, List.length_cons]
          constructor
          · rintro ⟨others, rfl, hothers⟩
            obtain ⟨rfl, rfl⟩ := (hrun others).1 hothers
            exact ⟨rfl, rfl⟩
          · rintro ⟨rfl, rfl⟩
            exact ⟨_, rfl, (hrun _).2 ⟨rfl, rfl⟩⟩

/-! ## the cursor behind the run -/

/-- A cursor passes over a run of characters that satisfy a test, and comes to stand at
`last`. -/
structure PassesRun (test : Char → Bool) (cursor last : Cursor) (run : List Char) : Prop where
  source_eq : last.source = cursor.source
  rest_eq : cursor.rest = run ++ last.rest
  isLongestRun : IsLongestRun test cursor.rest run
  offset_eq : last.place.offset = cursor.place.offset + Text.byteLength run
  line_eq : last.place.line = cursor.place.line + run.count '\n'
  /-- The column counts on, or from the last line feed of the run if there is one. -/
  column_eq : '\n' ∉ run ∧ last.place.column = cursor.place.column + run.length ∨
    ∃ init line, run = init ++ '\n' :: line ∧ '\n' ∉ line ∧
      last.place.column = 1 + line.length
  /-- The loop of a machine ends, and nowhere else than there. -/
  loop_iff : ∀ rounds registers, cursor.registers.EatsWhile test rounds registers ↔
    rounds = run.length ∧ registers = last.registers

theorem Fits.passesRun (h : cursor.Fits) (test : Char → Bool) :
    PassesRun test cursor (cursor.eatWhile test) (cursor.rest.takeWhile test) where
  source_eq := rfl
  rest_eq := (cursor.takeWhile_append_rest_eatWhile test).symm
  isLongestRun := isLongestRun_takeWhile test cursor.rest
  offset_eq := Place.offset_past _ _
  line_eq := Place.line_past _ _
  column_eq := Place.column_past _ _
  loop_iff _ _ := h.eatsWhile_iff

/-- **A test takes the longest run**, whatever the test, the line rule, and what was asked of
the cursor before.  On a source whose length and one more are words, the cursor stands behind
the longest first part of what was left that passes the test: its bytes and its line feeds
are counted, and the column counts from the last of these.  The loop of a machine comes to an
end, in the same place, after as many rounds as the run has characters. -/
theorem eatWhile_takes_longest_run (rule : LineRule) (source : List Char)
    (hroom : source.length + 2 ≤ countLimit) (requests : List Request) (session : Session)
    (h : (Session.start rule source).after requests = some session) (test : Char → Bool) :
    let cursor := session.cursor
    ∃ before run, source = before ++ cursor.rest ∧
      Text.byteLength before = cursor.place.offset ∧
      PassesRun test cursor (cursor.eatWhile test) run := by
  intro cursor
  obtain ⟨hsound, hsource⟩ : cursor.Sound ∧ cursor.source = source :=
    Session.sound_cursor_of_after h
  have hfits : cursor.Fits := ⟨hsound, hsource ▸ hroom⟩
  refine ⟨cursor.consumed, _, ?_, hsound.offset_eq.symm, hfits.passesRun test⟩
  rw [← hsource]
  exact hsound.source_eq

/-- A test that all characters pass takes all that is left, the null character in it
included, and the tab behind the line feed ends no line. -/
theorem eatWhile_takes_longest_run_through_null :
    ['a', '\x00', '\n', 'é', '\t'].length + 2 ≤ countLimit ∧
      (Session.start .legacy ['a', '\x00', '\n', 'é', '\t']).after [.advance] =
        some ⟨⟨.legacy, ['a', '\x00', '\n', 'é', '\t'], ['\x00', '\n', 'é', '\t'], ⟨1, 1, 2⟩⟩,
          [], []⟩ ∧
      PassesRun (fun _ => true)
        ⟨.legacy, ['a', '\x00', '\n', 'é', '\t'], ['\x00', '\n', 'é', '\t'], ⟨1, 1, 2⟩⟩
        ⟨.legacy, ['a', '\x00', '\n', 'é', '\t'], [], ⟨6, 2, 3⟩⟩
        ['\x00', '\n', 'é', '\t'] := by
  have hroom : ['a', '\x00', '\n', 'é', '\t'].length + 2 ≤ countLimit := by decide
  have hafter : (Session.start .legacy ['a', '\x00', '\n', 'é', '\t']).after [.advance] =
      some ⟨⟨.legacy, ['a', '\x00', '\n', 'é', '\t'], ['\x00', '\n', 'é', '\t'], ⟨1, 1, 2⟩⟩,
        [], []⟩ := rfl
  obtain ⟨before, run, -, -, h⟩ := eatWhile_takes_longest_run .legacy
    ['a', '\x00', '\n', 'é', '\t'] hroom [.advance] _ hafter fun _ => true
  have hrun : ['\x00', '\n', 'é', '\t'] = run := h.rest_eq.trans (List.append_nil run)
  subst hrun
  exact ⟨hroom, hafter, h⟩

end Cursor

end ScriptScan
