import Mathlib.Data.Bool.AllAny
import Mathlib.Data.List.TakeWhile
import ScriptScan.Lexeme

/-!
# ScriptScan.Proofs.Grammar

The lexical grammar of the script language, stated of texts alone: no cursor,
no place and no line rule occurs in it.

* `IsLexeme` — the texts that make a token, and of which kind;
* `Prolongs` — the characters that a lexeme would take in if they came next;
* `Breaks` — the texts with which no lexeme begins, and the fault in each;
* `Cuts` — a text as lexemes, none of which could be longer, and what is left.

`exists_cuts` says that every text is cut up to its end or up to a break.
-/

namespace ScriptScan

/-- A stretch of source text and the kind of token that it makes. -/
structure Piece where
  kind : Kind
  text : List Char
  deriving DecidableEq

/-! ## runs of characters -/

/-- The character at which `dropWhile` stops does not satisfy the test. -/
theorem of_head?_dropWhile {α : Type} {test : α → Bool} {xs : List α} {x : α}
    (h : (xs.dropWhile test).head? = some x) : test x = false := by
  have := List.head?_dropWhile_not test xs
  rwa [h] at this

/-! ## the classes of character -/

/-- The digits. -/
def Digit (c : Char) : Prop := '0' ≤ c ∧ c ≤ '9'

/-- The letters, small ones and capitals. -/
def Letter (c : Char) : Prop := 'a' ≤ c ∧ c ≤ 'z' ∨ 'A' ≤ c ∧ c ≤ 'Z'

/-- The characters of a number: digits and points. -/
def Numeral (c : Char) : Prop := Digit c ∨ c = '.'

/-- The characters of a word: letters and digits. -/
def WordChar (c : Char) : Prop := Letter c ∨ Digit c

instance : DecidablePred Digit := fun _ => inferInstanceAs (Decidable (_ ∧ _))

instance : DecidablePred Letter := fun _ => inferInstanceAs (Decidable (_ ∨ _))

instance : DecidablePred Numeral := fun _ => inferInstanceAs (Decidable (_ ∨ _))

instance : DecidablePred WordChar := fun _ => inferInstanceAs (Decidable (_ ∨ _))

theorem digit_iff {c : Char} : Digit c ↔ 48 ≤ c.toNat ∧ c.toNat ≤ 57 := by
  simp only [Digit, Char.le_def, UInt32.le_iff_toNat_le]
  rfl

theorem letter_iff {c : Char} :
    Letter c ↔ 97 ≤ c.toNat ∧ c.toNat ≤ 122 ∨ 65 ≤ c.toNat ∧ c.toNat ≤ 90 := by
  simp only [Letter, Char.le_def, UInt32.le_iff_toNat_le]
  rfl

theorem Letter.not_digit {c : Char} (h : Letter c) : ¬ Digit c := by
  rw [letter_iff] at h
  rw [digit_iff]
  omega

/-! ## the classes of lexeme -/

/-- The characters that are a token by themselves. -/
def marks : List (Char × Kind) :=
  [('+', .add), ('-', .subtract), ('*', .multiply), (';', .semicolon), ('(', .leftParen),
    (')', .rightParen), ('|', .or), ('\x7b', .leftBrace), ('\x7d', .rightBrace)]

/-- The characters that separate tokens. -/
def blanks : List Char := [' ', '\n', '\r', '\t']

/-- The comparison signs, each with its kind alone and its kind before an equals
sign. -/
def comparisons : List (Char × Kind × Kind) :=
  [('<', .lessThan, .lessEqual), ('>', .greaterThan, .greaterEqual), ('=', .assign, .equivalent)]

/-- The kind of a word is that of its keyword entry.  A word without an entry is
an identifier. -/
def IsWordKind (word : List Char) (kind : Kind) : Prop :=
  (String.ofList word, kind) ∈ Kind.keywords ∨
    kind = .identifier ∧ ∀ other, (String.ofList word, other) ∉ Kind.keywords

/-- The texts that make a token of a kind, whatever stands around them. -/
inductive IsLexeme : Kind → List Char → Prop
  | mark {c : Char} {kind : Kind} (h : (c, kind) ∈ marks) : IsLexeme kind [c]
  | blank {c : Char} (h : c ∈ blanks) : IsLexeme .ignore [c]
  | comparison {c : Char} {alone paired : Kind} (h : (c, alone, paired) ∈ comparisons) :
      IsLexeme alone [c]
  | comparisonEquals {c : Char} {alone paired : Kind} (h : (c, alone, paired) ∈ comparisons) :
      IsLexeme paired [c, '=']
  | divide : IsLexeme .divide ['/']
  | comment {body : List Char} (h : '\n' ∉ body) : IsLexeme .ignore ('/' :: '/' :: body)
  | string {body : List Char} (h : '"' ∉ body) : IsLexeme .string ('"' :: (body ++ ['"']))
  | number {d : Char} {ds : List Char} (hd : Digit d) (hds : ∀ c ∈ ds, Numeral c)
      (hpoints : (d :: ds).count '.' ≤ 1) :
      IsLexeme .number (d :: ds)
  | word {l : Char} {cs : List Char} {kind : Kind} (hl : Letter l)
      (hcs : ∀ c ∈ cs, WordChar c) (hkind : IsWordKind (l :: cs) kind) :
      IsLexeme kind (l :: cs)

/-- The characters that a lexeme takes in when they come next.  A number takes in
a second point, too, which makes it faulty. -/
inductive Prolongs : List Char → Char → Prop
  | comparison {c : Char} {kinds : Kind × Kind} (h : (c, kinds) ∈ comparisons) :
      Prolongs [c] '='
  | divide : Prolongs ['/'] '/'
  | comment {body : List Char} {c : Char} (h : c ≠ '\n') : Prolongs ('/' :: '/' :: body) c
  | number {d c : Char} {ds : List Char} (hd : Digit d) (hc : Numeral c) : Prolongs (d :: ds) c
  | word {l c : Char} {cs : List Char} (hl : Letter l) (hc : WordChar c) : Prolongs (l :: cs) c

/-- A lexeme ends before a text that does not begin with a character it would
take in. -/
def Ends (text rest : List Char) : Prop := ∀ c, rest.head? = some c → ¬ Prolongs text c

/-! ## where the grammar breaks -/

/-- The characters other than blanks, digits and letters that can begin a lexeme. -/
def signs : List Char :=
  ['+', '-', '*', '/', ';', '(', ')', '|', '\x7b', '\x7d', '<', '>', '=', '"']

/-- No lexeme and no faulty lexeme begins with the character. -/
def StartsNothing (c : Char) : Prop :=
  c ∉ blanks ∧ c ∉ signs ∧ ¬ Digit c ∧ ¬ Letter c

/-- The texts with which no lexeme begins, the fault in each, and how much of the
text is at fault. -/
inductive Breaks : List Char → Fault → List Char → Prop
  | unexpectedCharacter {c : Char} {cs : List Char} (h : StartsNothing c) :
      Breaks (c :: cs) (.unexpectedCharacter c) [c]
  | unterminatedString {body : List Char} (h : '"' ∉ body) :
      Breaks ('"' :: body) .unterminatedString ('"' :: body)
  | tooManyDecimals {d : Char} {ds rest : List Char} (hd : Digit d) (hds : ∀ c ∈ ds, Numeral c)
      (hrest : ∀ c, rest.head? = some c → ¬ Numeral c) (hpoints : 1 < (d :: ds).count '.') :
      Breaks (d :: ds ++ rest) (.tooManyDecimals (String.ofList (d :: ds))) (d :: ds)

/-! ## the first character decides the class -/

/-- What a text can begin, to judge by its first character. -/
inductive Start where
  | mark | blank | comparison | slash | quote | digit | letter | nothing
  deriving DecidableEq

/-- What a text can begin that begins with the given character. -/
def Start.of (c : Char) : Start :=
  if Digit c then .digit
  else if Letter c then .letter
  else if c = '/' then .slash
  else if c = '"' then .quote
  else if c ∈ blanks then .blank
  else if c ∈ marks.map (·.1) then .mark
  else if c ∈ comparisons.map (·.1) then .comparison
  else .nothing

@[grind →] theorem startOf_of_digit {c : Char} (h : Digit c) : Start.of c = .digit := if_pos h

@[grind →] theorem startOf_of_letter {c : Char} (h : Letter c) : Start.of c = .letter := by
  rw [Start.of, if_neg h.not_digit, if_pos h]

theorem startOf_slash : Start.of '/' = .slash := by decide

theorem startOf_quote : Start.of '"' = .quote := by decide

@[grind →] theorem startOf_of_mem_blanks {c : Char} (h : c ∈ blanks) : Start.of c = .blank := by
  have hall : ∀ c ∈ blanks, Start.of c = .blank := List.all_iff_forall_prop.1 (by decide)
  exact hall c h

@[grind →] theorem startOf_of_mem_marks {c : Char} {kind : Kind} (h : (c, kind) ∈ marks) :
    Start.of c = .mark := by
  have hall : ∀ entry ∈ marks, Start.of entry.1 = .mark := by decide
  exact hall (c, kind) h

@[grind →] theorem startOf_of_mem_comparisons {c : Char} {kinds : Kind × Kind}
    (h : (c, kinds) ∈ comparisons) : Start.of c = .comparison := by
  have hall : ∀ entry ∈ comparisons, Start.of entry.1 = .comparison := by decide
  exact hall (c, kinds) h

/-- No lexeme begins with any other character. -/
theorem startsNothing_iff {c : Char} : StartsNothing c ↔ Start.of c = .nothing := by
  constructor
  · rintro ⟨hblank, hsign, hdigit, hletter⟩
    simp only [signs, List.mem_cons, List.not_mem_nil, or_false, not_or] at hsign
    simp_all [Start.of, marks, comparisons]
  · intro h
    have hsigns : ∀ c ∈ signs, Start.of c ≠ .nothing := List.all_iff_forall_prop.1 (by decide)
    refine ⟨?_, fun hc => hsigns c hc h, ?_, ?_⟩ <;> grind

/-- Every sign is a slash, a quote, a mark or a comparison sign. -/
theorem mem_signs_cases {c : Char} (h : c ∈ signs) :
    c = '/' ∨ c = '"' ∨ (∃ kind, (c, kind) ∈ marks) ∨
      ∃ alone paired, (c, alone, paired) ∈ comparisons := by
  have hall : ∀ c ∈ signs, c = '/' ∨ c = '"' ∨ c ∈ marks.map (·.1) ∨ c ∈ comparisons.map (·.1) :=
    List.all_iff_forall_prop.1 (by decide)
  simpa using hall c h

/-- What is known of a character from what it can begin. -/
theorem startOf_spec (c : Char) :
    match Start.of c with
    | .mark => ∃ kind, (c, kind) ∈ marks
    | .blank => c ∈ blanks
    | .comparison => ∃ alone paired, (c, alone, paired) ∈ comparisons
    | .slash => c = '/'
    | .quote => c = '"'
    | .digit => Digit c
    | .letter => Letter c
    | .nothing => StartsNothing c := by
  by_cases hdigit : Digit c
  · rw [startOf_of_digit hdigit]; exact hdigit
  by_cases hletter : Letter c
  · rw [startOf_of_letter hletter]; exact hletter
  by_cases hblank : c ∈ blanks
  · rw [startOf_of_mem_blanks hblank]; exact hblank
  by_cases hsign : c ∈ signs
  · rcases mem_signs_cases hsign with rfl | rfl | ⟨kind, hmark⟩ | ⟨alone, paired, hcomparison⟩
    · rw [startOf_slash]
    · rw [startOf_quote]
    · rw [startOf_of_mem_marks hmark]; exact ⟨kind, hmark⟩
    · rw [startOf_of_mem_comparisons hcomparison]; exact ⟨alone, paired, hcomparison⟩
  · have hnothing : StartsNothing c := ⟨hblank, hsign, hdigit, hletter⟩
    rw [startsNothing_iff.1 hnothing]; exact hnothing

/-- What prolongs a lexeme, by the character with which the lexeme begins. -/
theorem prolongs_cases {c d : Char} {cs : List Char} (h : Prolongs (c :: cs) d) :
    match Start.of c with
    | .comparison => cs = [] ∧ d = '='
    | .slash => cs = [] ∧ d = '/' ∨ cs.head? = some '/' ∧ d ≠ '\n'
    | .digit => Numeral d
    | .letter => WordChar d
    | _ => False := by
  cases h with
  | comparison hc => rw [startOf_of_mem_comparisons hc]; exact ⟨rfl, rfl⟩
  | divide => rw [startOf_slash]; exact .inl ⟨rfl, rfl⟩
  | comment hd => rw [startOf_slash]; exact .inr ⟨rfl, hd⟩
  | number hc hd => rw [startOf_of_digit hc]; exact hd
  | word hc hd => rw [startOf_of_letter hc]; exact hd

/-- A comment ends before a line feed and where the text does. -/
theorem ends_comment_iff {body rest : List Char} :
    Ends ('/' :: '/' :: body) rest ↔ ∀ c, rest.head? = some c → c = '\n' := by
  constructor
  · intro hends c hc
    by_contra hfeed
    exact hends c hc (.comment hfeed)
  · intro hrest c hc hprolongs
    have htaken := prolongs_cases hprolongs
    simp [startOf_slash, hrest c hc] at htaken

/-! ## cutting a text -/

/-- `Cuts text pieces left`: the text is the lexemes `pieces`, each ending where it
has to, and then `left`. -/
inductive Cuts : List Char → List Piece → List Char → Prop
  | done {left : List Char} : Cuts left [] left
  | piece {piece : Piece} {rest left : List Char} {pieces : List Piece}
      (hlex : IsLexeme piece.kind piece.text) (hends : Ends piece.text rest)
      (h : Cuts rest pieces left) : Cuts (piece.text ++ rest) (piece :: pieces) left

/-- The texts of pieces, joined. -/
def joined (pieces : List Piece) : List Char := pieces.flatMap (·.text)

@[simp] theorem joined_nil : joined [] = [] := rfl

@[simp] theorem joined_cons (piece : Piece) (pieces : List Piece) :
    joined (piece :: pieces) = piece.text ++ joined pieces := rfl

@[simp] theorem joined_append (xs ys : List Piece) : joined (xs ++ ys) = joined xs ++ joined ys :=
  List.flatMap_append

/-- Nothing is lost: the pieces and what is left make up the text. -/
theorem Cuts.text_eq {text left : List Char} {pieces : List Piece} (h : Cuts text pieces left) :
    text = joined pieces ++ left := by
  induction h with
  | done => rfl
  | piece hlex hends h ih => rw [joined_cons, List.append_assoc, ← ih]

/-- What is left of one cut can be cut on. -/
theorem Cuts.trans {text mid left : List Char} {pieces others : List Piece}
    (h : Cuts text pieces mid) (h' : Cuts mid others left) : Cuts text (pieces ++ others) left := by
  induction h with
  | done => exact h'
  | piece hlex hends _ ih => exact .piece hlex hends (ih h')

/-- A cut can be stopped after any of its pieces. -/
theorem Cuts.split {text left : List Char} {pieces others : List Piece}
    (h : Cuts text (pieces ++ others) left) :
    ∃ mid, Cuts text pieces mid ∧ Cuts mid others left := by
  induction pieces generalizing text with
  | nil => exact ⟨text, .done, h⟩
  | cons piece pieces ih =>
      cases h with
      | piece hlex hends h =>
        obtain ⟨mid, hfirst, hsecond⟩ := ih h
        exact ⟨mid, .piece hlex hends hfirst, hsecond⟩

/-- The last piece of a cut is a lexeme that ends where it has to. -/
theorem Cuts.split_last {text left : List Char} {pieces : List Piece} {piece : Piece}
    (h : Cuts text (pieces ++ [piece]) left) :
    Cuts text pieces (piece.text ++ left) ∧ IsLexeme piece.kind piece.text ∧
      Ends piece.text left := by
  obtain ⟨mid, hbefore, hlast⟩ := h.split
  cases hlast with
  | piece hlex hends hdone =>
      cases hdone
      exact ⟨hbefore, hlex, hends⟩

/-- What a lexeme holds after the character with which it begins. -/
theorem lexeme_cases {kind : Kind} {c : Char} {cs : List Char} (h : IsLexeme kind (c :: cs)) :
    match Start.of c with
    | .mark | .blank => cs = []
    | .comparison => cs = [] ∨ cs = ['=']
    | .slash => cs = [] ∨ ∃ body, '\n' ∉ body ∧ cs = '/' :: body
    | .quote => ∃ body, '"' ∉ body ∧ cs = body ++ ['"']
    | .digit => ∀ d ∈ cs, Numeral d
    | .letter => ∀ d ∈ cs, WordChar d
    | .nothing => False := by
  cases h with
  | mark hc => rw [startOf_of_mem_marks hc]
  | blank hc => rw [startOf_of_mem_blanks hc]
  | comparison hc => rw [startOf_of_mem_comparisons hc]; exact .inl rfl
  | comparisonEquals hc => rw [startOf_of_mem_comparisons hc]; exact .inr rfl
  | divide => rw [startOf_slash]; exact .inl rfl
  | comment hbody => rw [startOf_slash]; exact .inr ⟨_, hbody, rfl⟩
  | string hbody => rw [startOf_quote]; exact ⟨_, hbody, rfl⟩
  | number hc hcs => rw [startOf_of_digit hc]; exact hcs
  | word hc hcs => rw [startOf_of_letter hc]; exact hcs

/-- A lexeme that goes on where another one ends begins its surplus with a character
that prolongs the shorter one. -/
theorem prolongs_of_longer {kind longKind : Kind} {text more : List Char} {d : Char}
    (h : IsLexeme kind text) (hlong : IsLexeme longKind (text ++ d :: more)) : Prolongs text d := by
  cases h with
  | mark hc =>
      have hshape := lexeme_cases hlong
      simp [startOf_of_mem_marks hc] at hshape
  | blank hc =>
      have hshape := lexeme_cases hlong
      simp [startOf_of_mem_blanks hc] at hshape
  | comparison hc =>
      have hshape := lexeme_cases hlong
      simp only [startOf_of_mem_comparisons hc] at hshape
      obtain rfl : d = '=' := by simp_all
      exact .comparison hc
  | comparisonEquals hc =>
      have hshape := lexeme_cases hlong
      simp [startOf_of_mem_comparisons hc] at hshape
  | divide =>
      have hshape := lexeme_cases hlong
      simp only [startOf_slash] at hshape
      obtain rfl : d = '/' := by simp_all
      exact .divide
  | comment hbody =>
      have hshape := lexeme_cases hlong
      simp only [startOf_slash] at hshape
      obtain hnil | ⟨body, hfeed, heq⟩ := hshape
      · cases hnil
      · refine .comment fun hd => hfeed ?_
        rw [← (List.cons.inj heq).2, hd]
        simp
  | @string body hbody =>
      have hshape := lexeme_cases hlong
      simp only [startOf_quote] at hshape
      obtain ⟨longBody, hquote, heq⟩ := hshape
      -- the quote that closes the shorter string would stand inside the longer one
      have hinit : body ++ ['"'] ++ (d :: more).dropLast = longBody := by
        have hlast : (body ++ ['"'] ++ d :: more).dropLast = (longBody ++ ['"']).dropLast :=
          congrArg List.dropLast heq
        rwa [List.dropLast_append_of_ne_nil (List.cons_ne_nil d more),
          List.dropLast_concat] at hlast
      exact absurd (by simp [← hinit]) hquote
  | number hc =>
      have hshape := lexeme_cases hlong
      simp only [startOf_of_digit hc] at hshape
      exact .number hc (hshape d (by simp))
  | word hc =>
      have hshape := lexeme_cases hlong
      simp only [startOf_of_letter hc] at hshape
      exact .word hc (hshape d (by simp))

/-- No lexeme at the front of a text is longer than one that ends where it has to. -/
theorem length_le_of_ends {kind longKind : Kind} {text long rest : List Char}
    (h : IsLexeme kind text) (hends : Ends text rest) (hlong : IsLexeme longKind long)
    (hlead : long <+: text ++ rest) : long.length ≤ text.length := by
  rcases List.prefix_or_prefix_of_prefix hlead (List.prefix_append text rest) with hle | hge
  · exact hle.length_le
  · obtain ⟨surplus, rfl⟩ := hge
    cases surplus with
    | nil => simp
    | cons d more =>
        obtain ⟨tail, htail⟩ := hlead
        have hnext : rest.head? = some d := by
          simp only [List.append_assoc, List.append_cancel_left_eq] at htail
          simp [← htail]
        exact absurd (prolongs_of_longer h hlong) (hends d hnext)

/-! ## every text begins with a lexeme or breaks -/

theorem IsLexeme.ne_nil {kind : Kind} {text : List Char} (h : IsLexeme kind text) : text ≠ [] := by
  cases h <;> simp

theorem Breaks.ne_nil {text bad : List Char} {fault : Fault} (h : Breaks text fault bad) :
    text ≠ [] := by
  cases h <;> simp

/-- Nothing comes of an empty text. -/
theorem Cuts.eq_nil {text left : List Char} {pieces : List Piece} (h : Cuts text pieces left)
    (htext : text = []) : pieces = [] ∧ left = [] := by
  cases h with
  | done => exact ⟨rfl, htext⟩
  | piece hlex => exact absurd (List.append_eq_nil_iff.1 htext).1 hlex.ne_nil

/-- Whether a lexeme ends before a text depends on the first character of the text. -/
theorem Ends.append {text rest : List Char} (h : Ends text rest) (hrest : rest ≠ [])
    (more : List Char) : Ends text (rest ++ more) := by
  obtain ⟨d, ds, rfl⟩ := List.exists_cons_of_ne_nil hrest
  exact h

/-- **Appended text changes no piece but the last**: a cut stays one when text is put
behind it, if something is left of the cut or its last piece ends before that text. -/
theorem Cuts.append {text left : List Char} {pieces : List Piece} (h : Cuts text pieces left)
    (more : List Char)
    (hlast : left = [] → ∀ piece, pieces.getLast? = some piece → Ends piece.text more) :
    Cuts (text ++ more) pieces (left ++ more) := by
  induction h with
  | done => exact .done
  | @piece piece rest left pieces hlex hends h ih =>
      rw [List.append_assoc]
      refine .piece hlex ?_ (ih fun hleft other hother => hlast hleft other ?_)
      · by_cases hrest : rest = []
        · -- nothing comes behind the piece but the new text
          obtain ⟨rfl, hleft⟩ := h.eq_nil hrest
          rw [hrest]
          exact hlast hleft piece rfl
        · exact hends.append hrest more
      · rw [List.getLast?_cons, hother]
        rfl

/-- **Only the next character matters**: a cut stays one when another text comes in place of
what is left of it, if that text begins with the same character or is empty. -/
theorem Cuts.replace_left {text left : List Char} {pieces : List Piece} (h : Cuts text pieces left)
    {other : List Char} (hother : ∀ c, other.head? = some c → left.head? = some c) :
    Cuts (joined pieces ++ other) pieces other := by
  induction h with
  | done => exact .done
  | @piece piece rest left pieces hlex hends h ih =>
      rw [joined_cons, List.append_assoc]
      refine .piece hlex (fun c hc => hends c ?_) (ih hother)
      rw [h.text_eq]
      rw [List.head?_append] at hc ⊢
      cases hjoined : (joined pieces).head? with
      | none => exact hother c (by simpa [hjoined] using hc)
      | some d => simpa [hjoined] using hc

/-- A fault stays one when text is put behind it, but for a string that is still open and
for a number that goes on. -/
theorem Breaks.append {text bad : List Char} {fault : Fault} (h : Breaks text fault bad)
    (hfault : fault ≠ .unterminatedString) {more : List Char}
    (hmore : ∀ number, fault = .tooManyDecimals number →
      ∀ c, more.head? = some c → ¬ Numeral c) :
    Breaks (text ++ more) fault bad := by
  cases h with
  | unexpectedCharacter h => exact .unexpectedCharacter h
  | unterminatedString => exact absurd rfl hfault
  | @tooManyDecimals d ds rest hd hds hrest hpoints =>
      rw [List.append_assoc]
      refine .tooManyDecimals hd hds ?_ hpoints
      cases rest with
      | nil => exact hmore _ rfl
      | cons c cs => exact hrest

/-- A text begins with a lexeme that ends where it has to. -/
def Begins (text : List Char) : Prop :=
  ∃ (piece : Piece) (rest : List Char),
    text = piece.text ++ rest ∧ IsLexeme piece.kind piece.text ∧ Ends piece.text rest

theorem begins_comparison {c : Char} {alone paired : Kind} (h : (c, alone, paired) ∈ comparisons)
    (cs : List Char) : Begins (c :: cs) := by
  have hstart := startOf_of_mem_comparisons h
  by_cases heq : cs.head? = some '='
  · obtain ⟨rest, rfl⟩ : ∃ rest, cs = '=' :: rest := by
      cases cs <;> simp_all
    refine ⟨⟨paired, [c, '=']⟩, rest, rfl, .comparisonEquals h, fun d _ hd => ?_⟩
    have htaken := prolongs_cases hd
    simp [hstart] at htaken
  · refine ⟨⟨alone, [c]⟩, cs, rfl, .comparison h, fun d hnext hd => ?_⟩
    have htaken := prolongs_cases hd
    simp only [hstart] at htaken
    exact heq (htaken.2 ▸ hnext)

theorem begins_slash (cs : List Char) : Begins ('/' :: cs) := by
  by_cases hslash : cs.head? = some '/'
  · obtain ⟨tail, rfl⟩ : ∃ tail, cs = '/' :: tail := by
      cases cs <;> simp_all
    refine ⟨⟨.ignore, '/' :: '/' :: tail.takeWhile (· ≠ '\n')⟩, tail.dropWhile (· ≠ '\n'), ?_,
      .comment fun hmem => ?_, fun d hnext hd => ?_⟩
    · simp
    · simpa using List.mem_takeWhile_imp hmem
    · have hfeed : d = '\n' := by simpa using of_head?_dropWhile hnext
      have htaken := prolongs_cases hd
      simp [startOf_slash, hfeed] at htaken
  · refine ⟨⟨.divide, ['/']⟩, cs, rfl, .divide, fun d hnext hd => ?_⟩
    have htaken := prolongs_cases hd
    simp [startOf_slash] at htaken
    exact hslash (htaken ▸ hnext)

theorem exists_isWordKind (word : List Char) : ∃ kind, IsWordKind word kind := by
  by_cases h : ∃ kind, (String.ofList word, kind) ∈ Kind.keywords
  · obtain ⟨kind, hkind⟩ := h
    exact ⟨kind, .inl hkind⟩
  · exact ⟨.identifier, .inr ⟨rfl, fun other hother => h ⟨other, hother⟩⟩⟩

theorem begins_letter {l : Char} (h : Letter l) (cs : List Char) : Begins (l :: cs) := by
  obtain ⟨kind, hkind⟩ := exists_isWordKind (l :: cs.takeWhile (WordChar ·))
  refine ⟨⟨kind, l :: cs.takeWhile (WordChar ·)⟩, cs.dropWhile (WordChar ·), by simp,
    .word h (fun c hc => by simpa using List.mem_takeWhile_imp hc) hkind, fun d hnext hd => ?_⟩
  have htaken := prolongs_cases hd
  rw [startOf_of_letter h] at htaken
  simpa [htaken] using of_head?_dropWhile hnext

theorem begins_or_breaks_digit {d : Char} (h : Digit d) (cs : List Char) :
    Begins (d :: cs) ∨ ∃ fault text, Breaks (d :: cs) fault text := by
  have htext : d :: cs = d :: cs.takeWhile (Numeral ·) ++ cs.dropWhile (Numeral ·) := by simp
  have hnumeral : ∀ c ∈ cs.takeWhile (Numeral ·), Numeral c := fun c hc => by
    simpa using List.mem_takeWhile_imp hc
  have hrest : ∀ c, (cs.dropWhile (Numeral ·)).head? = some c → ¬ Numeral c := fun c hc => by
    simpa using of_head?_dropWhile hc
  by_cases hpoints : (d :: cs.takeWhile (Numeral ·)).count '.' ≤ 1
  · refine .inl ⟨⟨.number, d :: cs.takeWhile (Numeral ·)⟩, cs.dropWhile (Numeral ·), htext,
      .number h hnumeral hpoints, fun c hnext hc => ?_⟩
    have htaken := prolongs_cases hc
    rw [startOf_of_digit h] at htaken
    exact hrest c hnext htaken
  · rw [htext]
    exact .inr ⟨_, _, .tooManyDecimals h hnumeral hrest (Nat.lt_of_not_le hpoints)⟩

theorem begins_or_breaks_quote (cs : List Char) :
    Begins ('"' :: cs) ∨ ∃ fault text, Breaks ('"' :: cs) fault text := by
  by_cases hclosed : '"' ∈ cs
  · obtain ⟨body, rest, hcs, hbody⟩ := List.eq_append_cons_of_mem hclosed
    refine .inl ⟨⟨.string, '"' :: (body ++ ['"'])⟩, rest, by simp [hcs], .string hbody,
      fun d _ hd => ?_⟩
    have htaken := prolongs_cases hd
    simp [startOf_quote] at htaken
  · exact .inr ⟨_, _, .unterminatedString hclosed⟩

/-- A text that is not empty begins with a lexeme or breaks the grammar. -/
theorem begins_or_breaks (c : Char) (cs : List Char) :
    Begins (c :: cs) ∨ ∃ fault text, Breaks (c :: cs) fault text := by
  have hspec := startOf_spec c
  cases hstart : Start.of c <;> rw [hstart] at hspec
  case mark =>
    obtain ⟨kind, hmark⟩ := hspec
    refine .inl ⟨⟨kind, [c]⟩, cs, rfl, .mark hmark, fun d _ hd => ?_⟩
    have htaken := prolongs_cases hd
    rwa [hstart] at htaken
  case blank =>
    refine .inl ⟨⟨.ignore, [c]⟩, cs, rfl, .blank hspec, fun d _ hd => ?_⟩
    have htaken := prolongs_cases hd
    rwa [hstart] at htaken
  case comparison =>
    obtain ⟨alone, paired, hcomparison⟩ := hspec
    exact .inl (begins_comparison hcomparison cs)
  case slash => subst hspec; exact .inl (begins_slash cs)
  case quote => subst hspec; exact begins_or_breaks_quote cs
  case digit => exact begins_or_breaks_digit hspec cs
  case letter => exact .inl (begins_letter hspec cs)
  case nothing => exact .inr ⟨_, _, .unexpectedCharacter hspec⟩

/-- Every text is cut into lexemes up to its end or up to a break. -/
theorem exists_cuts (text : List Char) : ∃ pieces left,
    Cuts text pieces left ∧ (left = [] ∨ ∃ fault bad, Breaks left fault bad) := by
  induction hn : text.length using Nat.strongRecOn generalizing text with
  | _ n ih =>
    cases text with
    | nil => exact ⟨[], [], .done, .inl rfl⟩
    | cons c cs =>
      rcases begins_or_breaks c cs with ⟨piece, rest, htext, hlex, hends⟩ | hbreaks
      · have hlt : rest.length < n := by
          have hpos := List.length_pos_iff.2 hlex.ne_nil
          have hlen := congrArg List.length htext
          rw [List.length_append] at hlen
          omega
        obtain ⟨pieces, left, hcuts, hleft⟩ := ih rest.length hlt rest rfl
        exact ⟨piece :: pieces, left, htext ▸ .piece hlex hends hcuts, hleft⟩
      · exact ⟨[], c :: cs, .done, .inr hbreaks⟩

end ScriptScan
