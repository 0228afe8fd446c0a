import ScriptScan.Proofs.Soundness

/-!
# ScriptScan.Proofs.Registers

The cursor as a machine keeps it.  Of the text a machine has the source alone, with a place
in it whose three numbers are words.  So each cut of the source and each increment of a
number can fail, and after a failure there is nothing.

* `Cursor.registers` — what a machine keeps of a cursor;
* `Registers.carryOut?` — a request carried out on registers, one cut and one increment
  after the other;
* `Fits.carryOut?_registers` — on a source that has room for its counts nothing fails, and
  the registers give what the cursor gives;
* `Fits.exists_handle`, `Session.exists_after` — so requests that suit a cursor, one or any
  number of them, do not break off;
* `stays_sound` — what holds after any requests, and of any request after them.
-/

namespace ScriptScan

/-! ## numbers that are words -/

/-- A number, if it is a word. -/
def word? (limit n : Nat) : Option Nat := if n < limit then some n else none

theorem word?_of_lt {limit n : Nat} (h : n < limit) : word? limit n = some n := if_pos h

theorem eq_of_word? {limit n m : Nat} (h : word? limit n = some m) : m = n := by
  unfold word? at h
  split at h <;> cases h
  rfl

namespace Place

/-- The start of the next line, if its line is a word. -/
def newLine? (place : Place) : Option Place := do
  let line ← word? countLimit (place.line + 1)
  return { place with line, column := 1 }

/-- The place after a character: first its bytes are counted, then a line or a column. -/
def next? (place : Place) (c : Char) : Option Place := do
  let offset ← word? offsetLimit (place.offset + c.utf8Size)
  let moved := { place with offset }
  if c = '\n' then
    moved.newLine?
  else
    let column ← word? countLimit (moved.column + 1)
    return { moved with column }

variable {place : Place} {c : Char}

theorem newLine?_eq (h : place.line + 1 < countLimit) : place.newLine? = some place.newLine := by
  rw [newLine?, word?_of_lt h]
  rfl

/-- Behind the last line that is a word no line starts. -/
example : newLine? ⟨0, 4294967295, 1⟩ = none := by decide

theorem next?_eq (hoffset : place.offset + c.utf8Size < offsetLimit)
    (hline : place.line + 1 < countLimit) (hcolumn : place.column + 1 < countLimit) :
    place.next? c = some (place.next c) := by
  rw [next?, next, word?_of_lt hoffset]
  by_cases hc : c = '\n'
  · simp only [hc, if_true]
    exact newLine?_eq hline
  · simp only [hc, if_false]
    exact congrArg (Option.bind · _) (word?_of_lt hcolumn)

/-- Whatever becomes of line and column, a character adds its bytes. -/
theorem offset_of_next? {after : Place} (h : place.next? c = some after) :
    after.offset = place.offset + c.utf8Size := by
  obtain ⟨offset, hoffset, h⟩ := Option.bind_eq_some_iff.1 h
  obtain rfl := eq_of_word? hoffset
  split at h <;> obtain ⟨_, -, hafter⟩ := Option.bind_eq_some_iff.1 h <;>
    exact congrArg Place.offset (Option.some.inj hafter).symm

end Place

namespace Cursor

/-- A cursor as a machine keeps it. -/
structure Registers where
  rule : LineRule
  source : List Char
  place : Place
  deriving DecidableEq

namespace Registers

/-! ## looking and cutting -/

/-- The source from the place on.  There is none inside a character or past the end. -/
def rest? (registers : Registers) : Option (List Char) :=
  (Text.splitAtByte? registers.place.offset registers.source).map (·.2)

/-- The character at the place, or the null character if none starts there. -/
def current (registers : Registers) : Char := (registers.rest?.map (·.headD '\x00')).getD '\x00'

def atEnd (registers : Registers) : Bool :=
  decide (Text.byteLength registers.source ≤ registers.place.offset)

/-- The span from one place to another, located at the first one. -/
def spanFrom (registers : Registers) (mark : Place) : Span :=
  ⟨mark.offset, registers.place.offset, mark.line, mark.column⟩

/-- The source from a mark to the place, cut out. -/
def lexeme? (registers : Registers) (mark : Place) : Option (List Char) :=
  (registers.spanFrom mark).slice? registers.source

/-- The token from a mark to the place. -/
def token? (registers : Registers) (mark : Place) (kind : Kind) : Option Token := do
  let text ← registers.lexeme? mark
  return Token.of kind (String.ofList text) (registers.spanFrom mark)

/-! ## moving -/

/-- Passes over one character.  At the end nothing happens. -/
def advance? (registers : Registers) : Option Registers :=
  registers.rest?.bind fun
    | [] => some registers
    | c :: _ => (registers.place.next? c).map ({ registers with place := · })

/-- Passes over one character, and then starts a new line if it ends one. -/
def advanceSeparator? (registers : Registers) : Option Registers :=
  let c := registers.current
  registers.advance?.bind fun moved =>
    if c ≠ '\n' ∧ registers.rule.endsLine c then
      moved.place.newLine?.map ({ moved with place := · })
    else
      some moved

section

variable {registers after : Registers}

theorem advance?_of_nil (h : registers.rest? = some []) :
    registers.advance? = some registers := by
  rw [advance?, h]
  rfl

theorem advance?_of_cons {c : Char} {cs : List Char} (h : registers.rest? = some (c :: cs)) :
    registers.advance? = (registers.place.next? c).map ({ registers with place := · }) := by
  rw [advance?, h]
  rfl

/-- Each round of the loop over a run brings the end of the source closer. -/
theorem sub_lt_of_advance? (hend : registers.atEnd = false)
    (h : registers.advance? = some after) :
    Text.byteLength after.source - after.place.offset <
      Text.byteLength registers.source - registers.place.offset := by
  have hlt : registers.place.offset < Text.byteLength registers.source :=
    Nat.lt_of_not_le (of_decide_eq_false hend)
  cases hrest : registers.rest? with
  | none => rw [advance?, hrest] at h; cases h
  | some rest =>
      obtain ⟨⟨before, after⟩, hcut, heq⟩ := Option.map_eq_some_iff.1 hrest
      obtain ⟨hsource, hbefore⟩ := Text.eq_of_splitAtByte? hcut
      cases rest with
      | nil =>
          rw [hsource, show after = [] from heq, List.append_nil, hbefore] at hlt
          exact absurd hlt (Nat.lt_irrefl _)
      | cons c cs =>
          rw [advance?_of_cons hrest] at h
          obtain ⟨place, hplace, rfl⟩ := Option.map_eq_some_iff.1 h
          rw [Place.offset_of_next? hplace]
          exact Nat.sub_lt_sub_left hlt (Nat.lt_add_of_pos_right c.utf8Size_pos)

end

/-- Passes over characters one by one while they satisfy a test. -/
def eatWhile? (test : Char → Bool) (registers : Registers) : Option Registers :=
  if _ : registers.atEnd = false ∧ test registers.current = true then
    match _ : registers.advance? with
    | none => none
    | some moved => moved.eatWhile? test
  else
    some registers
termination_by Text.byteLength registers.source - registers.place.offset
decreasing_by
  exact sub_lt_of_advance? (And.left ‹_›) ‹_›

/-- Passes over the next character if it is the expected one, and tells whether it was. -/
def eat? (expected : Char) (registers : Registers) : Option (Bool × Registers) := do
  if registers.atEnd = false ∧ registers.current = expected then
    return (true, ← registers.advance?)
  else
    return (false, registers)

section

variable {registers moved : Registers} {test : Char → Bool}

theorem eatWhile?_of_pos (hend : registers.atEnd = false) (htest : test registers.current = true)
    (h : registers.advance? = some moved) : registers.eatWhile? test = moved.eatWhile? test := by
  rw [eatWhile?, dif_pos ⟨hend, htest⟩]
  split
  · next hnone => rw [h] at hnone; cases hnone
  · next hsome => rw [h] at hsome; cases hsome; rfl

theorem eatWhile?_of_neg (h : ¬(registers.atEnd = false ∧ test registers.current = true)) :
    registers.eatWhile? test = some registers := by
  rw [eatWhile?, dif_neg h]

end

/-! ## reading -/

def readSingle? (kind : Kind) (registers : Registers) : Option (Token × Registers) :=
  (if kind = .ignore then registers.advanceSeparator? else registers.advance?).bind fun last =>
    (last.token? registers.place kind).map (·, last)

/-- Reads a comparison sign and the equals sign after it, if there is one.  To be called at
any other character is a failure. -/
def readComparison? (registers : Registers) : Option (Token × Registers) := do
  let (alone, paired) ← Kind.ofComparison? registers.current
  let signed ← registers.advance?
  let (eaten, last) ← signed.eat? '='
  return (← last.token? registers.place (if eaten then paired else alone), last)

def readSlash? (registers : Registers) : Option (Token × Registers) := do
  let signed ← registers.advance?
  let (eaten, opened) ← signed.eat? '/'
  if eaten then
    let last ← opened.eatWhile? (· ≠ '\n')
    return (← last.token? registers.place .ignore, last)
  else
    return (← opened.token? registers.place .divide, opened)

def readString? (registers : Registers) : Option (Except ScanError Token × Registers) := do
  let opened ← registers.advance?
  let last ← opened.eatWhile? (· ≠ '"')
  if last.atEnd then
    return (.error ⟨.unterminatedString, last.spanFrom registers.place⟩, last)
  else
    let body ← last.lexeme? opened.place
    let closed ← last.advance?
    return (.ok (.of .string (String.ofList body) (closed.spanFrom registers.place)), closed)

def readNumber? (registers : Registers) : Option (Except ScanError Token × Registers) := do
  let last ← registers.eatWhile? isNumeral
  let text ← last.lexeme? registers.place
  let span := last.spanFrom registers.place
  if 1 < text.count '.' then
    return (.error ⟨.tooManyDecimals (String.ofList text), span⟩, last)
  else
    return (.ok (.of .number (String.ofList text) span), last)

def readWord? (registers : Registers) : Option (Token × Registers) := do
  let last ← registers.eatWhile? isWordChar
  let word ← last.lexeme? registers.place
  let kind := (Kind.ofKeyword? (String.ofList word)).getD .identifier
  return (.of kind (String.ofList word) (last.spanFrom registers.place), last)

/-- Carries out a request that reads; the other ones are not for registers. -/
def carryOut? (registers : Registers) : Request → Option (Reply × Registers)
  | .advance => registers.advance?.map (.done, ·)
  | .advanceSeparator => registers.advanceSeparator?.map (.done, ·)
  | .eatWhile test => (registers.eatWhile? test).map (.done, ·)
  | .eat expected => (registers.eat? expected).map (Prod.map .flag id)
  | .readSingle kind => (registers.readSingle? kind).map (Prod.map .token id)
  | .readComparison => registers.readComparison?.map (Prod.map .token id)
  | .readSlash => registers.readSlash?.map (Prod.map .token id)
  | .readString => registers.readString?.map (Prod.map Session.replyOf id)
  | .readNumber => registers.readNumber?.map (Prod.map Session.replyOf id)
  | .readWord => registers.readWord?.map (Prod.map .token id)
  | .peek _ | .mark | .markAt _ | .lexeme _ | .spanFrom _ | .sliceFrom _ | .source | .save
  | .restore _ => none

end Registers

/-! ## registers go along with a cursor -/

/-- What a machine keeps of a cursor. -/
def registers (cursor : Cursor) : Registers := ⟨cursor.rule, cursor.source, cursor.place⟩

@[simp] theorem place_registers (cursor : Cursor) : cursor.registers.place = cursor.place := rfl

/-- A sound cursor on a source that has room for its counts: the line and column after a
text of its length, and one more, are words. -/
structure Fits (cursor : Cursor) : Prop where
  sound : cursor.Sound
  room : cursor.source.length + 2 ≤ countLimit

variable {cursor first last : Cursor}

theorem take_one_append_tail (cs : List Char) : cs.take 1 ++ cs.tail = cs := by
  rw [← List.drop_one, List.take_append_drop]

/-- A cursor that passed over a character, and over the expected one if that came next. -/
theorem rest_of_eat {expected : Char} {eaten : Bool}
    (h : cursor.advance.eat expected = (eaten, last)) :
    cursor.rest = (cursor.rest.take 1 ++ if eaten then [expected] else []) ++ last.rest := by
  have hsign : cursor.rest.take 1 ++ cursor.advance.rest = cursor.rest := by
    rw [rest_advance, take_one_append_tail]
  unfold eat at h
  split at h <;> cases h
  · next hnext =>
    obtain ⟨cs, hcs⟩ := List.head?_eq_some_iff.1 hnext
    rw [rest_advance cursor.advance, hcs, if_pos rfl, List.append_assoc]
    exact (hcs ▸ hsign).symm
  · rw [if_neg Bool.false_ne_true, List.append_nil]
    exact hsign.symm

theorem Fits.moves (h : first.Fits) (hmoves : Moves first last) : last.Fits :=
  ⟨hmoves.sound h.sound, hmoves.source_eq ▸ h.room⟩

namespace Sound

theorem rest?_registers (h : cursor.Sound) : cursor.registers.rest? = some cursor.rest :=
  congrArg (Option.map Prod.snd) h.splitAtByte?_offset

theorem current_registers (h : cursor.Sound) : cursor.registers.current = cursor.current := by
  rw [Registers.current, h.rest?_registers]
  rfl

theorem atEnd_registers (h : cursor.Sound) : cursor.registers.atEnd = cursor.atEnd := by
  have hbytes := congrArg Text.byteLength h.source_eq
  rw [Text.byteLength_append, ← h.offset_eq] at hbytes
  rw [Registers.atEnd, registers, atEnd, hbytes]
  cases hrest : cursor.rest with
  | nil => exact decide_eq_true (Nat.le_refl _)
  | cons c cs =>
      have hpos : 0 < Text.byteLength (c :: cs) := Nat.add_pos_left c.utf8Size_pos _
      exact decide_eq_false (Nat.not_le_of_lt (Nat.lt_add_of_pos_right hpos))

/-- The source between two cursors, cut out, is what was passed over. -/
theorem lexeme?_registers (h : first.Sound) (hmoves : Moves first last) {text : List Char}
    (hrest : first.rest = text ++ last.rest) :
    last.registers.lexeme? first.place = some text := by
  have hsource : last.source = first.consumed ++ text ++ last.rest := by
    rw [hmoves.source_eq, List.append_assoc, ← hrest]
    exact h.source_eq
  refine Span.slice?_eq_some_iff.2 ⟨first.consumed, last.rest, hsource, h.offset_eq.symm, ?_⟩
  rw [← Text.byteLength_append, ← consumed_eq hsource]
  exact (hmoves.sound h).offset_eq.symm

theorem token?_registers (h : first.Sound) (hmoves : Moves first last) {text : List Char}
    (hrest : first.rest = text ++ last.rest) (kind : Kind) :
    last.registers.token? first.place kind = some (first.token last kind text) := by
  rw [Registers.token?, h.lexeme?_registers hmoves hrest]
  rfl

end Sound

namespace Fits

/-- In front of a character there is room for its bytes, and for one more line or column. -/
theorem add_lt (h : cursor.Fits) {c : Char} {cs : List Char} (hrest : cursor.rest = c :: cs) :
    cursor.place.offset + c.utf8Size < offsetLimit ∧
      cursor.place.line + 1 < countLimit ∧ cursor.place.column + 1 < countLimit := by
  have hroom := h.room
  have hlength := congrArg List.length h.sound.source_eq
  have hbytes := congrArg Text.byteLength h.sound.source_eq
  rw [hrest, List.length_append, List.length_cons] at hlength
  rw [hrest, Text.byteLength_append, ← h.sound.offset_eq, Text.byteLength_cons] at hbytes
  constructor
  · have hfour := Text.byteLength_le cursor.source
    have hlimits : 4 * countLimit ≤ offsetLimit := by decide
    omega
  · have hline := h.sound.one_le_line
    have hcolumn := h.sound.one_le_column
    have hsum := h.sound.line_add_column_le
    omega

theorem advance?_registers (h : cursor.Fits) :
    cursor.registers.advance? = some cursor.advance.registers := by
  have hrest? := h.sound.rest?_registers
  cases hrest : cursor.rest with
  | nil => rw [Registers.advance?_of_nil (hrest ▸ hrest?), advance, hrest]
  | cons c cs =>
      obtain ⟨hoffset, hline, hcolumn⟩ := h.add_lt hrest
      have hnext : cursor.registers.place.next? c = some (cursor.place.next c) :=
        Place.next?_eq hoffset hline hcolumn
      rw [Registers.advance?_of_cons (hrest ▸ hrest?), hnext, advance_eq hrest]
      rfl

/-- Where a separator starts a line of its own, it has moved the column before, and there is
room for the line as well. -/
theorem advanceSeparator?_registers (h : cursor.Fits) :
    cursor.registers.advanceSeparator? = some cursor.advanceSeparator.registers := by
  rw [Registers.advanceSeparator?, h.sound.current_registers, h.advance?_registers]
  cases hrest : cursor.rest with
  | nil =>
      have hends : cursor.registers.rule.endsLine cursor.current = false := by
        rw [current, hrest, registers]
        cases cursor.rule <;> rfl
      rw [advanceSeparator, advance, hrest]
      simp [hends]
  | cons c cs =>
      have hline := (h.add_lt hrest).2.1
      rw [current_eq hrest, advance_eq hrest, advanceSeparator_eq hrest, Place.nextSeparator]
      by_cases hends : c ≠ '\n' ∧ cursor.rule.endsLine c
      · have hmoved : (cursor.place.next c).newLine? = some (cursor.place.next c).newLine :=
          Place.newLine?_eq (by rwa [Place.line_next, if_neg hends.1])
        rw [if_pos hends]
        exact (if_pos hends).trans (congrArg (Option.map _) hmoved)
      · rw [if_neg hends]
        exact if_neg hends

theorem eatWhile?_registers (h : cursor.Fits) (test : Char → Bool) :
    cursor.registers.eatWhile? test = some (cursor.eatWhile test).registers := by
  have hend := h.sound.atEnd_registers
  have hcurrent := h.sound.current_registers
  induction hrest : cursor.rest generalizing cursor with
  | nil =>
      rw [atEnd, hrest] at hend
      rw [Registers.eatWhile?_of_neg (by simp [hend]), eatWhile_of_neg (by simp [hrest])]
  | cons c cs ih =>
      rw [atEnd, hrest] at hend
      rw [current_eq hrest] at hcurrent
      by_cases hc : test c = true
      · have hmoved := h.moves Moves.refl.advance
        rw [Registers.eatWhile?_of_pos hend (hcurrent ▸ hc) h.advance?_registers,
          eatWhile_of_pos hrest hc]
        exact ih hmoved hmoved.sound.atEnd_registers hmoved.sound.current_registers
          (by rw [rest_advance, hrest, List.tail_cons])
      · rw [Registers.eatWhile?_of_neg (by simp [hcurrent, hc]),
          eatWhile_of_neg (by simp [hrest, hc])]

theorem eat?_registers (h : cursor.Fits) (expected : Char) :
    cursor.registers.eat? expected = some ((cursor.eat expected).map id registers) := by
  rw [Registers.eat?, h.sound.current_registers, h.sound.atEnd_registers, h.advance?_registers,
    eat, current, atEnd]
  cases cursor.rest with
  | nil => rfl
  | cons c cs =>
      by_cases hc : c = expected
      · simp [hc]
      · simp [hc]

theorem readSingle?_registers (h : cursor.Fits) (kind : Kind) :
    cursor.registers.readSingle? kind = some ((cursor.readSingle kind).map id registers) := by
  have hlast : (if kind = .ignore then cursor.registers.advanceSeparator? else
      cursor.registers.advance?) = some (cursor.readSingle kind).2.registers := by
    unfold readSingle
    split
    · exact h.advanceSeparator?_registers
    · exact h.advance?_registers
  have hrest : cursor.rest = cursor.rest.take 1 ++ (cursor.readSingle kind).2.rest := by
    unfold readSingle
    split <;> simp [take_one_append_tail]
  have htoken := h.sound.token?_registers (moves_readSingle kind cursor) hrest kind
  rw [Registers.readSingle?, hlast, Option.bind_some, place_registers, htoken]
  rfl

theorem readComparison?_registers (h : cursor.Fits) :
    cursor.registers.readComparison? = cursor.readComparison?.map (Prod.map id registers) := by
  have heat := (h.moves Moves.refl.advance).eat?_registers '='
  have hmoves := Moves.refl.advance.trans (moves_eat '=' cursor.advance)
  rw [Registers.readComparison?, h.sound.current_registers, h.advance?_registers, readComparison?]
  cases Kind.ofComparison? cursor.current with
  | none => rfl
  | some kinds =>
      rcases hfound : cursor.advance.eat '=' with ⟨eaten, last⟩
      rw [hfound] at heat hmoves
      have htoken := h.sound.token?_registers hmoves (rest_of_eat hfound)
      simp only [Option.bind_eq_bind, Option.bind_some, heat, place_registers, Prod.map]
      cases eaten with
      | true =>
          simp only [if_true] at htoken ⊢
          rw [htoken]
          rfl
      | false =>
          simp only [Bool.false_eq_true, if_false, List.append_nil] at htoken ⊢
          rw [htoken]
          rfl

theorem readSlash?_registers (h : cursor.Fits) :
    cursor.registers.readSlash? = some (cursor.readSlash.map id registers) := by
  have heat := (h.moves Moves.refl.advance).eat?_registers '/'
  have hmoves := Moves.refl.advance.trans (moves_eat '/' cursor.advance)
  rcases hfound : cursor.advance.eat '/' with ⟨eaten, opened⟩
  rw [hfound] at heat hmoves
  have hrest := rest_of_eat hfound
  simp only [Registers.readSlash?, h.advance?_registers, Option.bind_eq_bind, Option.bind_some,
    heat, readSlash, hfound, place_registers, Prod.map]
  cases eaten with
  | true =>
      have hlast := (h.moves hmoves).eatWhile?_registers (· ≠ '\n')
      have hcomment := opened.takeWhile_append_rest_eatWhile (· ≠ '\n')
      have hall : cursor.rest =
          (cursor.rest.take 1 ++ '/' :: opened.rest.takeWhile (· ≠ '\n')) ++
            (opened.eatWhile (· ≠ '\n')).rest := by
        rw [List.append_assoc, List.cons_append, hcomment]
        exact hrest.trans (List.append_assoc _ _ _)
      have htoken := h.sound.token?_registers (hmoves.trans (moves_eatWhile _ opened)) hall
      simp only [if_true, id, hlast, Option.bind_some, htoken]
      rfl
  | false =>
      have htoken := h.sound.token?_registers hmoves hrest
      simp only [Bool.false_eq_true, if_false, List.append_nil] at htoken
      simp only [id, Bool.false_eq_true, if_false, htoken, Option.bind_some]
      rfl

theorem readString?_registers (h : cursor.Fits) :
    cursor.registers.readString? = some (cursor.readString.map id registers) := by
  have hopened := h.moves Moves.refl.advance
  have hmoves := moves_eatWhile (· ≠ '"') cursor.advance
  have hlast := hopened.moves hmoves
  have hbody := hopened.sound.lexeme?_registers hmoves
    (cursor.advance.takeWhile_append_rest_eatWhile (· ≠ '"')).symm
  simp only [Registers.readString?, h.advance?_registers, hopened.eatWhile?_registers,
    hlast.sound.atEnd_registers, hlast.advance?_registers, hbody, place_registers, readString,
    Option.bind_eq_bind, Option.bind_some]
  split <;> rfl

theorem readNumber?_registers (h : cursor.Fits) :
    cursor.registers.readNumber? = some (cursor.readNumber.map id registers) := by
  have htext := h.sound.lexeme?_registers (moves_eatWhile isNumeral cursor)
    (cursor.takeWhile_append_rest_eatWhile isNumeral).symm
  simp only [Registers.readNumber?, h.eatWhile?_registers, htext, place_registers, readNumber,
    Option.bind_eq_bind, Option.bind_some]
  split <;> rfl

theorem readWord?_registers (h : cursor.Fits) :
    cursor.registers.readWord? = some (cursor.readWord.map id registers) := by
  have htext := h.sound.lexeme?_registers (moves_eatWhile isWordChar cursor)
    (cursor.takeWhile_append_rest_eatWhile isWordChar).symm
  simp only [Registers.readWord?, h.eatWhile?_registers, htext, place_registers, readWord,
    Option.bind_eq_bind, Option.bind_some]
  rfl

end Fits

/-! ## requests -/

/-- Whether a request makes a cursor read.  A comparison is read at its sign only. -/
def Request.Reads (cursor : Cursor) : Request → Prop
  | .advance | .advanceSeparator | .eatWhile _ | .eat _ | .readSingle _ | .readSlash
  | .readString | .readNumber | .readWord => True
  | .readComparison => cursor.current ∈ ['<', '>', '=']
  | .peek _ | .mark | .markAt _ | .lexeme _ | .spanFrom _ | .sliceFrom _ | .source | .save
  | .restore _ => False

theorem exists_readComparison? (h : cursor.current ∈ ['<', '>', '=']) :
    ∃ found, cursor.readComparison? = some found := by
  obtain ⟨kinds, hkinds⟩ : ∃ kinds, Kind.ofComparison? cursor.current = some kinds := by
    simp only [List.mem_cons, List.not_mem_nil, or_false] at h
    rcases h with h | h | h <;> exact ⟨_, congrArg Kind.ofComparison? h⟩
  rw [readComparison?, hkinds]
  simp only
  split <;> exact ⟨_, rfl⟩

/-- **No cut and no increment fails**: a request to read does not break off, and on registers
it does what it does on the cursor. -/
theorem Fits.carryOut?_registers {session : Session} (h : session.cursor.Fits)
    {request : Request} (hreads : request.Reads session.cursor) :
    ∃ reply next, session.handle request = some (reply, next) ∧
      session.cursor.registers.carryOut? request = some (reply, next.cursor.registers) := by
  cases request with
  | advance => exact ⟨_, _, rfl, congrArg (Option.map _) h.advance?_registers⟩
  | advanceSeparator => exact ⟨_, _, rfl, congrArg (Option.map _) h.advanceSeparator?_registers⟩
  | eatWhile test => exact ⟨_, _, rfl, congrArg (Option.map _) (h.eatWhile?_registers test)⟩
  | eat expected => exact ⟨_, _, rfl, congrArg (Option.map _) (h.eat?_registers expected)⟩
  | readSingle kind => exact ⟨_, _, rfl, congrArg (Option.map _) (h.readSingle?_registers kind)⟩
  | readSlash => exact ⟨_, _, rfl, congrArg (Option.map _) h.readSlash?_registers⟩
  | readWord => exact ⟨_, _, rfl, congrArg (Option.map _) h.readWord?_registers⟩
  | readString =>
      rw [Session.handle, Session.readOrFail_eq]
      exact ⟨_, _, rfl, congrArg (Option.map _) h.readString?_registers⟩
  | readNumber =>
      rw [Session.handle, Session.readOrFail_eq]
      exact ⟨_, _, rfl, congrArg (Option.map _) h.readNumber?_registers⟩
  | readComparison =>
      obtain ⟨found, hfound⟩ := exists_readComparison? hreads
      have hread := h.readComparison?_registers
      rw [hfound] at hread
      exact ⟨_, _, congrArg (Option.map session.read) hfound, congrArg (Option.map _) hread⟩
  | peek | mark | markAt | lexeme | spanFrom | sliceFrom | source | save | restore =>
      exact hreads.elim

/-- What a cursor may be asked: to read, to be remembered, or to be again what was
remembered. -/
def Request.Suits (cursor : Cursor) (request : Request) : Prop :=
  request.Reads cursor ∨ request = .save ∨ ∃ saved, request = .restore saved

/-- Requests each of which suits the cursor that it finds. -/
def Session.Suits (session : Session) : List Request → Prop
  | [] => True
  | request :: requests => request.Suits session.cursor ∧
      ∀ reply next, session.handle request = some (reply, next) → next.Suits requests

/-- A request that suits a cursor does not break off. -/
theorem Fits.exists_handle {session : Session} (h : session.cursor.Fits) {request : Request}
    (hsuits : request.Suits session.cursor) :
    ∃ reply next, session.handle request = some (reply, next) := by
  rcases hsuits with hreads | rfl | ⟨saved, rfl⟩
  · obtain ⟨reply, next, hhandle, -⟩ := h.carryOut?_registers hreads
    exact ⟨reply, next, hhandle⟩
  · exact ⟨_, _, rfl⟩
  · cases hsaved : session.saved[saved]? <;> simp [Session.handle, hsaved]

/-- Requests that suit the cursor do not break off, in whatever order they come. -/
theorem Session.exists_after {session : Session} {source : List Char} {requests : List Request}
    (hsound : session.Sound source) (hroom : source.length + 2 ≤ countLimit)
    (hsuits : session.Suits requests) : ∃ last, session.after requests = some last := by
  -- by the requests: each finds a sound cursor on the same source, and leaves one
  induction requests generalizing session with
  | nil => exact ⟨session, rfl⟩
  | cons request requests ih =>
      obtain ⟨hrequest, hrequests⟩ := hsuits
      obtain ⟨hcursor, hsource⟩ := hsound session.cursor List.mem_cons_self
      have hfits : session.cursor.Fits := ⟨hcursor, hsource ▸ hroom⟩
      obtain ⟨reply, next, hhandle⟩ := hfits.exists_handle hrequest
      obtain ⟨last, hlast⟩ := ih (hsound.handle hhandle) (hrequests reply next hhandle)
      refine ⟨last, ?_⟩
      rw [after, hhandle]
      exact hlast

/-- **A cursor stays sound**, whatever it is asked and in whatever order.  On a source whose
length and one more are words, requests that suit the cursor do not break off.  The place
after any requests is one between two characters, counted from 1, and line and column have
grown together by one at most with each character.  A mark and the place enclose the text
that the span between them covers, if it covers any.  And of the next request: unless it goes
back to a remembered cursor, offset and line do not decrease; to remember a cursor or to go
back to one does not break off; and neither does a request to read, in which on registers no
cut and no increment fails. -/
theorem stays_sound (rule : LineRule) (source : List Char)
    (hroom : source.length + 2 ≤ countLimit) (requests : List Request) :
    ((Session.start rule source).Suits requests →
      ∃ session, (Session.start rule source).after requests = some session) ∧
    ∀ session, (Session.start rule source).after requests = some session →
      let cursor := session.cursor
      cursor.source = source ∧
        (∃ before, Text.splitAtByte? cursor.place.offset source = some (before, cursor.rest) ∧
          cursor.place.line + cursor.place.column ≤ 2 + before.length) ∧
        cursor.place.offset ≤ Text.byteLength source ∧
        1 ≤ cursor.place.line ∧ 1 ≤ cursor.place.column ∧
        (∀ mark, cursor.lexeme? mark = (cursor.spanFrom mark).slice? source) ∧
        (∀ request reply next, session.handle request = some (reply, next) →
          (∀ saved, request ≠ .restore saved) →
            cursor.place.offset ≤ next.cursor.place.offset ∧
              cursor.place.line ≤ next.cursor.place.line) ∧
        (∀ request, request = .save ∨ (∃ saved, request = .restore saved) →
          ∃ reply next, session.handle request = some (reply, next)) ∧
        ∀ request : Request, request.Reads cursor →
          ∃ reply next, session.handle request = some (reply, next) ∧
            cursor.registers.carryOut? request = some (reply, next.cursor.registers) := by
  constructor
  · exact Session.exists_after (Session.sound_start rule source) hroom
  · intro session h cursor
    obtain ⟨hsound, hsource⟩ : cursor.Sound ∧ cursor.source = source :=
      Session.sound_cursor_of_after h
    have hfits : cursor.Fits := ⟨hsound, hsource ▸ hroom⟩
    have hcut := hsource ▸ hsound.splitAtByte?_offset
    refine ⟨hsource, ⟨cursor.consumed, hcut, hsound.line_add_column_le⟩, ?_, hsound.one_le_line,
      hsound.one_le_column, fun mark => hsource ▸ hsound.lexeme?_eq mark,
      fun _ _ _ => Session.place_handle_le, fun request hkept => hfits.exists_handle (.inr hkept),
      fun request => hfits.carryOut?_registers⟩
    rw [hsound.offset_eq, (Text.eq_of_splitAtByte? hcut).1, Text.byteLength_append]
    exact Nat.le_add_right _ _

/-- A tab that ends a line is passed over as a separator, and then a comparison is read. -/
theorem stays_sound_behind_tab :
    "\t<=".toList.length + 2 ≤ countLimit ∧
      (Session.start .legacy "\t<=".toList).after [.advanceSeparator] =
        some ⟨⟨.legacy, "\t<=".toList, "<=".toList, ⟨1, 2, 1⟩⟩, [], []⟩ ∧
      (registers ⟨.legacy, "\t<=".toList, "<=".toList, ⟨1, 2, 1⟩⟩).carryOut? .readComparison =
        some (.token (.of .lessEqual "<=" ⟨1, 3, 2, 1⟩),
          ⟨.legacy, "\t<=".toList, ⟨3, 2, 3⟩⟩) := by
  have hroom : "\t<=".toList.length + 2 ≤ countLimit := by decide
  have hafter : (Session.start .legacy "\t<=".toList).after [.advanceSeparator] =
      some ⟨⟨.legacy, "\t<=".toList, "<=".toList, ⟨1, 2, 1⟩⟩, [], []⟩ := by
    decide
  have hsound := (stays_sound .legacy "\t<=".toList hroom [.advanceSeparator]).2 _ hafter
  obtain ⟨reply, next, hhandle, hcarry⟩ :=
    hsound.2.2.2.2.2.2.2.2 .readComparison (show _ ∈ ['<', '>', '='] by decide)
  cases hhandle
  exact ⟨hroom, hafter, hcarry⟩

end Cursor

end ScriptScan
