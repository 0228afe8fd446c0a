import Mathlib.Data.List.Nodup
import ScriptScan.Json.Codec
import ScriptScan.Span

/-!
# ScriptScan.Proofs.JsonCodec

What is known of a library that stores values as JSON.

Only its documented behaviour is: the form in which it writes each sort of value, and forms
in which it reads one.  How it refuses anything else is not asked for.

* `JsonCodec.Documented` — that behaviour, one law for each sort of value and direction;
* `JsonCodec.documented_standard` — the library by which requests are answered has it.
-/

namespace ScriptScan

namespace JsonCodec

/-- A word in a declared name: a capital, and small letters behind it. -/
def isWord : List Char → Bool
  | [] => false
  | initial :: others => initial.isUpper && others.all Char.isLower

/-- The documented behaviour of a library. -/
structure Documented (codec : JsonCodec) : Prop where
  writeWord_eq (n : Nat) : codec.writeWord n = .integer n
  readWord?_integer {limit n : Nat} (hlimit : limit ≤ offsetLimit) (h : n < limit) :
    codec.readWord? limit (.integer n) = some n
  writeText_eq (text : String) : codec.writeText text = .str text
  readText?_str (text : String) : codec.readText? (.str text) = some text
  writeBool_eq (value : Bool) : codec.writeBool value = .bool value
  readBool?_bool (value : Bool) : codec.readBool? (.bool value) = some value
  /-- No value is null, and another one is as it is without being optional. -/
  writeOptional_none : codec.writeOptional none = .null
  writeOptional_some (json : Json) : codec.writeOptional (some json) = json
  readOptional_null : codec.readOptional .null = none
  readOptional_of_ne {json : Json} (h : json ≠ .null) : codec.readOptional json = some json
  writeSequence_eq (items : List Json) : codec.writeSequence items = .arr items
  readSequence?_arr (items : List Json) : codec.readSequence? (.arr items) = some items
  /-- A record is written as an object, in some order. -/
  writeRecord_eq (fields : List (String × Json)) :
    ∃ entries, codec.writeRecord fields = .obj entries ∧ entries.Perm fields
  /-- From an object fields are read by their names, in whatever order they stand there; those
  of other names are ignored, and those that are missing have to have a default. -/
  readRecord?_obj {fields : List Field} {entries : List (String × Json)}
    (hnames : (entries.map (·.1)).Nodup)
    (hrequired : ∀ field ∈ fields, field.hasDefault = false →
      field.name ∈ entries.map (·.1)) :
    codec.readRecord? fields (.obj entries) =
      some (fields.map fun field => entries.lookup field.name)
  /-- From an array fields are read in order, and those behind its end have to have a
  default. -/
  readRecord?_arr {fields : List Field} {items : List Json} (hlength : items.length ≤ fields.length)
    (hrequired : ∀ field ∈ fields.drop items.length, field.hasDefault = true) :
    codec.readRecord? fields (.arr items) =
      some (items.map some ++ (fields.drop items.length).map fun _ => none)
  caseName_asDeclared (name : String) : codec.caseName .asDeclared name = name
  /-- The words of a name are written in capitals, with underscores between them. -/
  caseName_screamingSnakeCase {words : List (List Char)} (h : ∀ word ∈ words, isWord word = true) :
    codec.caseName .screamingSnakeCase (String.ofList words.flatten) =
      String.ofList (['_'].intercalate (words.map (·.map Char.toUpper)))
  /-- A case without a value is its name, and one with a value an object that maps the name
  to the value. -/
  writeCase_none (naming : Naming) (name : String) :
    codec.writeCase naming name none = .str (codec.caseName naming name)
  writeCase_some (naming : Naming) (name : String) (json : Json) :
    codec.writeCase naming name (some json) = .obj [(codec.caseName naming name, json)]
  readCase?_str {naming : Naming} {cases : List Case} {name : String}
    (hnames : (cases.map (codec.caseName naming ·.name)).Nodup) (h : ⟨name, false⟩ ∈ cases) :
    codec.readCase? naming cases (.str (codec.caseName naming name)) = some (name, none)
  readCase?_obj {naming : Naming} {cases : List Case} {name : String}
    (hnames : (cases.map (codec.caseName naming ·.name)).Nodup) (h : ⟨name, true⟩ ∈ cases)
    (json : Json) :
    codec.readCase? naming cases (.obj [(codec.caseName naming name, json)]) =
      some (name, some json)

/-! ## the library by which requests are answered -/

section

variable {field : Field} {fields : List Field} {entries : List (String × Json)}
  {items : List Json} {cases : List Case} {declared : Case} {naming : Naming}

theorem Field.admit?_of_hasDefault (h : field.hasDefault = true) (found : Option Json) :
    field.admit? found = some found := by
  simp [admit?, h]

theorem objectFields?_eq (hrequired : ∀ field ∈ fields, field.hasDefault = false →
      field.name ∈ entries.map (·.1)) :
    objectFields? entries fields = some (fields.map fun field => entries.lookup field.name) := by
  induction fields with
  | nil => rfl
  | cons field fields ih =>
      obtain ⟨hfield, hfields⟩ := List.forall_mem_cons.1 hrequired
      have hadmit : field.admit? (entries.lookup field.name) =
          some (entries.lookup field.name) := by
        cases hdefault : field.hasDefault with
        | true => exact Field.admit?_of_hasDefault hdefault _
        | false =>
            obtain ⟨entry, hmem, hname⟩ := List.mem_map.1 (hfield hdefault)
            have hsome : (entries.lookup field.name).isSome = true := by
              rw [List.lookup_isSome_iff]
              exact ⟨entry, hmem, by simp [hname]⟩
            simp [Field.admit?, hsome]
      simp [objectFields?, hadmit, ih hfields]

theorem arrayFields?_eq (hlength : items.length ≤ fields.length)
    (hrequired : ∀ field ∈ fields.drop items.length, field.hasDefault = true) :
    arrayFields? fields items =
      some (items.map some ++ (fields.drop items.length).map fun _ => none) := by
  induction fields generalizing items with
  | nil =>
      obtain rfl := List.length_eq_zero_iff.1 (Nat.le_zero.1 hlength)
      rfl
  | cons field fields ih =>
      cases items with
      | nil =>
          obtain ⟨hfield, hfields⟩ := List.forall_mem_cons.1 hrequired
          have hrest := @ih [] (Nat.zero_le _) hfields
          simp [arrayFields?, Field.admit?_of_hasDefault hfield, hrest]
      | cons item items =>
          have hrest := ih (Nat.le_of_succ_le_succ hlength) hrequired
          simp [arrayFields?, Field.admit?, hrest]

theorem isUpper_of_isLower {c : Char} (h : c.isLower = true) : c.isUpper = false := by
  have hlow : 'a'.val ≤ c.val := of_decide_eq_true (Bool.and_eq_true_iff.1 h).1
  refine decide_eq_false fun hcapital => ?_
  exact absurd (UInt32.le_trans hlow hcapital.2) (by decide)

theorem toUpper_of_isUpper {c : Char} (h : c.isUpper = true) : c.toUpper = c := by
  have hcapital : c.val ≤ 'Z'.val := (of_decide_eq_true h).2
  exact dif_neg fun hlow => absurd (UInt32.le_trans hlow.1 hcapital) (by decide)

/-- Small letters behind the first one of a word turn to capitals. -/
theorem flatMap_spaced_of_isLower {others : List Char} (h : others.all Char.isLower = true) :
    others.flatMap Naming.spaced = others.map Char.toUpper := by
  induction others with
  | nil => rfl
  | cons c cs ih =>
      obtain ⟨hc, hcs⟩ : c.isLower = true ∧ cs.all Char.isLower = true := by simpa using h
      rw [List.flatMap_cons, ih hcs, Naming.spaced, isUpper_of_isLower hc]
      rfl

/-- Words behind the first one begin with underscores. -/
theorem flatMap_spaced_flatten {words : List (List Char)}
    (h : ∀ word ∈ words, isWord word = true) :
    words.flatten.flatMap Naming.spaced =
      words.flatMap fun word => '_' :: word.map Char.toUpper := by
  induction words with
  | nil => rfl
  | cons word words ih =>
      obtain ⟨hword, hwords⟩ := List.forall_mem_cons.1 h
      cases word with
      | nil => cases hword
      | cons initial others =>
          obtain ⟨hinitial, hothers⟩ := (Bool.and_eq_true _ _).mp hword
          simp only [List.flatten_cons, List.flatMap_append, List.flatMap_cons, ih hwords,
            Naming.spaced, hinitial, if_true, flatMap_spaced_of_isLower hothers, List.map_cons,
            toUpper_of_isUpper hinitial]
          rfl

theorem intercalate_cons (word : List Char) (words : List (List Char)) :
    ['_'].intercalate (word :: words) = word ++ words.flatMap ('_' :: ·) := by
  induction words generalizing word with
  | nil => simp [List.intercalate]
  | cons next words ih => rw [List.intercalate_cons_cons, ih, List.flatMap_cons]; simp

/-- A name in capitals is that of its words. -/
theorem screamingSnake_flatten {words : List (List Char)}
    (h : ∀ word ∈ words, isWord word = true) :
    Naming.screamingSnake words.flatten =
      ['_'].intercalate (words.map (·.map Char.toUpper)) := by
  cases words with
  | nil => rfl
  | cons word words =>
      obtain ⟨hword, hwords⟩ := List.forall_mem_cons.1 h
      cases word with
      | nil => cases hword
      | cons initial others =>
          obtain ⟨-, hothers⟩ := (Bool.and_eq_true _ _).mp hword
          rw [List.flatten_cons, List.cons_append, Naming.screamingSnake, List.flatMap_append,
            flatMap_spaced_of_isLower hothers, flatMap_spaced_flatten hwords, List.map_cons,
            intercalate_cons, List.map_cons, List.flatMap_map]
          rfl

/-- A case is found by its stored name if no other one has that name. -/
theorem find?_eq_some {test : Case → Bool} (hnames : (cases.map (naming.apply ·.name)).Nodup)
    (h : declared ∈ cases) (htest : test declared = true)
    (hname : ∀ other, test other = true → naming.apply other.name = naming.apply declared.name) :
    cases.find? test = some declared := by
  cases hfind : cases.find? test with
  | none => simpa [htest] using List.find?_eq_none.1 hfind declared h
  | some other =>
      have hsame := hname other (List.find?_some hfind)
      rw [List.inj_on_of_nodup_map hnames (List.mem_of_find?_eq_some hfind) h hsame]

end

/-- **The documentation is kept** by the library that answers requests. -/
theorem documented_standard : standard.Documented where
  writeWord_eq _ := rfl
  readWord?_integer _ h := by simp [standard, Json.natBelow?, h]
  writeText_eq _ := rfl
  readText?_str _ := rfl
  writeBool_eq _ := rfl
  readBool?_bool _ := rfl
  writeOptional_none := rfl
  writeOptional_some _ := rfl
  readOptional_null := rfl
  readOptional_of_ne {json} h := by
    cases json with
    | null => exact absurd rfl h
    | bool | integer | real | str | arr | obj => rfl
  writeSequence_eq _ := rfl
  readSequence?_arr _ := rfl
  writeRecord_eq fields := ⟨fields, rfl, .refl _⟩
  readRecord?_obj _ hrequired := objectFields?_eq hrequired
  readRecord?_arr hlength hrequired := arrayFields?_eq hlength hrequired
  caseName_asDeclared _ := rfl
  caseName_screamingSnakeCase h := by
    simp only [standard, Naming.apply, String.toList_ofList]
    rw [screamingSnake_flatten h]
  writeCase_none _ _ := rfl
  writeCase_some _ _ _ := rfl
  readCase?_str {naming cases name} hnames h := by
    have hfind : cases.find? (fun declared => !declared.carries &&
        naming.apply declared.name == naming.apply name) = some ⟨name, false⟩ :=
      find?_eq_some hnames h (by simp) (by simp)
    simp [standard, caseOf?, hfind]
  readCase?_obj {naming cases name} hnames h json := by
    have hfind : cases.find? (fun declared => naming.apply declared.name == naming.apply name) =
        some ⟨name, true⟩ :=
      find?_eq_some hnames h (by simp) (by simp)
    simp [standard, caseOf?, hfind]

end JsonCodec

end ScriptScan
