import Mathlib.Data.List.SplitBy
import ScriptScan.Proofs.Concatenation
import ScriptScan.Proofs.JsonCodec
import ScriptScan.Token.Json

/-!
# ScriptScan.Proofs.Storing

Tokens stored as JSON and read back, by any library that does what is documented.

An object is read by the names of its fields, so neither their order nor fields of other names
matter.  An array is read by its order, so fields may be missing at its end only.  In both
forms a token comes back as it was, if its numbers are words and its literal, should it have
one, is no double.

* `Json.IsRecord` — the forms of a record, and `Json.IsRecord.readRecord?_eq` what is read
  from them;
* `Kind.caseName_declaredName` — a kind is stored under the name that it is shown with;
* `Token.IsForm` — the forms of a token, in which its span may have either form, too;
* `tokens_survive_storing` — what is written of a token, what is read from its forms, and from
  the tokens of a scan.
-/

namespace ScriptScan

variable {codec : JsonCodec}

/-! ## records -/

namespace Json

/-- The forms of a record without the fields called `missing`: an object that holds the others
in any order, and fields of other names with them, or an array of them in order. -/
inductive IsRecord (fields : List (String × Json)) (missing : List String) : Json → Prop
  | object {all others : List (String × Json)} (hall : all.Perm (fields ++ others))
      (hnames : (all.map (·.1)).Nodup) (hothers : ∀ other ∈ others, other.1 ∉ missing) :
      IsRecord fields missing (.obj all)
  | array : IsRecord fields missing (.arr (fields.map (·.2)))

section

variable {all fields : List (String × Json)} {missing : List String} {json : Json}
  {declared : List JsonCodec.Field}

/-- A field is found by its name, wherever it stands. -/
theorem lookup_of_mem (hnames : (all.map (·.1)).Nodup) {field : String × Json}
    (hmem : field ∈ all) : all.lookup field.1 = some field.2 := by
  cases hlookup : all.lookup field.1 with
  | none => simpa using List.lookup_eq_none_iff.1 hlookup field hmem
  | some value =>
      obtain ⟨before, after, hall, -⟩ := List.lookup_eq_some_iff.1 hlookup
      have hfound : (field.1, value) ∈ all := by simp [hall]
      exact congrArg (some ·.2) (List.inj_on_of_nodup_map hnames hfound hmem rfl)

/-- Looked up by the declared names, the fields are found in order, and the missing ones are
not. -/
theorem map_lookup_eq (hdeclared : declared.map (·.name) = fields.map (·.1) ++ missing)
    (hfields : ∀ field ∈ fields, all.lookup field.1 = some field.2)
    (hmissing : ∀ name ∈ missing, all.lookup name = none) :
    declared.map (fun field => all.lookup field.name) =
      fields.map (some ·.2) ++ missing.map fun _ => none :=
  calc declared.map (fun field => all.lookup field.name)
      = (declared.map (·.name)).map fun name => all.lookup name := by
        rw [List.map_map]
        rfl
    _ = fields.map (fun field => all.lookup field.1) ++
          missing.map fun name => all.lookup name := by
        rw [hdeclared, List.map_append, List.map_map]
        rfl
    _ = fields.map (some ·.2) ++ missing.map fun _ => none := by
        rw [List.map_congr_left hfields, List.map_congr_left hmissing]

/-- A field without a default is none of the missing ones, so it is there. -/
theorem mem_names_of_required (hdeclared : declared.map (·.name) = fields.map (·.1) ++ missing)
    (hdefault : ∀ field ∈ declared, field.hasDefault = false → field.name ∉ missing)
    {field : JsonCodec.Field} (hmem : field ∈ declared) (hfalse : field.hasDefault = false) :
    field.name ∈ fields.map (·.1) := by
  have hname : field.name ∈ declared.map (·.name) := List.mem_map_of_mem hmem
  rw [hdeclared] at hname
  exact (List.mem_append.1 hname).resolve_right (hdefault field hmem hfalse)

/-- The declared fields behind those that are there are the missing ones. -/
theorem map_name_drop (hdeclared : declared.map (·.name) = fields.map (·.1) ++ missing) :
    (declared.drop fields.length).map (·.name) = missing := by
  rw [List.map_drop, hdeclared, List.drop_left' (List.length_map _)]

/-- **Records are read in every form**: the fields in order, and nothing for the missing ones,
which have to be declared with a default. -/
theorem IsRecord.readRecord?_eq (hcodec : codec.Documented) (h : IsRecord fields missing json)
    (hdeclared : declared.map (·.name) = fields.map (·.1) ++ missing)
    (hnodup : (declared.map (·.name)).Nodup)
    (hdefault : ∀ field ∈ declared, field.hasDefault = false → field.name ∉ missing) :
    codec.readRecord? declared json =
      some (fields.map (some ·.2) ++ missing.map fun _ => none) := by
  rw [hdeclared] at hnodup
  obtain ⟨-, -, hdisjoint⟩ := List.nodup_append.1 hnodup
  cases h with
  | @object all others hall hnames hothers =>
      have hfields : ∀ field ∈ fields, all.lookup field.1 = some field.2 := fun field hmem =>
        lookup_of_mem hnames (hall.mem_iff.2 (List.mem_append_left _ hmem))
      have hmissing : ∀ name ∈ missing, all.lookup name = none := by
        refine fun name hname => List.lookup_eq_none_iff.2 fun field hmem => bne_iff_ne.2 ?_
        rintro rfl
        rcases List.mem_append.1 (hall.mem_iff.1 hmem) with hin | hout
        · exact hdisjoint _ (List.mem_map_of_mem hin) _ hname rfl
        · exact hothers field hout hname
      have hrequired : ∀ field ∈ declared, field.hasDefault = false →
          field.name ∈ all.map (·.1) := by
        intro field hmem hfalse
        rw [(hall.map _).mem_iff, List.map_append]
        exact List.mem_append_left _ (mem_names_of_required hdeclared hdefault hmem hfalse)
      rw [hcodec.readRecord?_obj hnames hrequired, map_lookup_eq hdeclared hfields hmissing]
  | array =>
      have hrest := map_name_drop hdeclared
      have hlength : fields.length ≤ declared.length := by
        have hall := congrArg List.length hdeclared
        rw [List.length_append, List.length_map, List.length_map] at hall
        omega
      have hrequired : ∀ field ∈ declared.drop (fields.map (·.2)).length,
          field.hasDefault = true := by
        intro field hmem
        rw [List.length_map] at hmem
        by_contra hfalse
        refine hdefault field (List.mem_of_mem_drop hmem) (by simpa using hfalse) ?_
        rw [← hrest]
        exact List.mem_map_of_mem hmem
      rw [hcodec.readRecord?_arr (by simpa using hlength) hrequired, List.map_map, List.length_map,
        ← hrest, List.map_map]
      rfl

/-- What is written of a record is one of its forms. -/
theorem isRecord_writeRecord (hcodec : codec.Documented) (hnames : (fields.map (·.1)).Nodup) :
    IsRecord fields [] (codec.writeRecord fields) := by
  obtain ⟨entries, hwritten, hperm⟩ := hcodec.writeRecord_eq fields
  have hall : entries.Perm (fields ++ []) := by rwa [List.append_nil]
  rw [hwritten]
  exact .object hall ((hperm.map _).nodup_iff.2 hnames) (by simp)

end

end Json

/-! ## spans -/

namespace Span

/-- The numbers of a span are words. -/
structure Storable (span : Span) : Prop where
  start_lt : span.start < offsetLimit
  stop_lt : span.stop < offsetLimit
  line_lt : span.line < countLimit
  column_lt : span.column < countLimit

/-- The fields of a span. -/
def fields (span : Span) : List (String × Json) :=
  [("start", .integer span.start), ("end", .integer span.stop), ("line", .integer span.line),
    ("column", .integer span.column)]

/-- The forms of a span. -/
def IsForm (span : Span) : Json → Prop := Json.IsRecord span.fields []

theorem isForm_toJson (hcodec : codec.Documented) (span : Span) :
    span.IsForm (span.toJson codec) := by
  have hnames : (span.fields.map (·.1)).Nodup :=
    show ["start", "end", "line", "column"].Nodup by decide
  have hwritten : span.toJson codec = codec.writeRecord span.fields := by
    simp only [toJson, fields, hcodec.writeWord_eq]
  rw [hwritten]
  exact Json.isRecord_writeRecord hcodec hnames

theorem ofJson?_of_isForm (hcodec : codec.Documented) {span : Span} {json : Json}
    (h : span.Storable) (hform : span.IsForm json) : ofJson? codec json = some span := by
  have hlimit : countLimit ≤ offsetLimit := by decide
  have hread : codec.readRecord? declaration json = some (span.fields.map (some ·.2)) :=
    hform.readRecord?_eq hcodec rfl (by decide) (by simp)
  rw [ofJson?, hread]
  simp [fields, hcodec.readWord?_integer (Nat.le_refl _) h.start_lt,
    hcodec.readWord?_integer (Nat.le_refl _) h.stop_lt, hcodec.readWord?_integer hlimit h.line_lt,
    hcodec.readWord?_integer hlimit h.column_lt]

end Span

/-! ## kinds and literals -/

namespace Kind

/-- **The name that is stored is the name that is shown**: in capitals, with underscores
between the words of the declared name. -/
theorem caseName_declaredName (hcodec : codec.Documented) (kind : Kind) :
    codec.caseName .screamingSnakeCase kind.declaredName = kind.name := by
  -- the words of a declared name begin at its capitals
  have hwords : ∀ word ∈ kind.declaredName.toList.splitBy fun _ c => !c.isUpper,
      JsonCodec.isWord word = true := by
    cases kind <;> decide +kernel
  have hname := hcodec.caseName_screamingSnakeCase hwords
  rw [List.flatten_splitBy, String.ofList_toList] at hname
  rw [hname]
  cases kind <;> decide +kernel

theorem toJson_eq (hcodec : codec.Documented) (kind : Kind) :
    kind.toJson codec = .str kind.name := by
  rw [toJson, hcodec.writeCase_none, caseName_declaredName hcodec]

/-- No two kinds are stored under one name. -/
theorem ofJson?_str (hcodec : codec.Documented) (kind : Kind) :
    ofJson? codec (.str kind.name) = some kind := by
  have hnames : (cases.map (codec.caseName .screamingSnakeCase ·.name)).Nodup := by
    have hall : cases.map (codec.caseName .screamingSnakeCase ·.name) = all.map name := by
      rw [cases, List.map_map]
      exact List.map_congr_left fun kind _ => caseName_declaredName hcodec kind
    rw [hall]
    decide +kernel
  have hmem : ⟨kind.declaredName, false⟩ ∈ cases :=
    List.mem_map_of_mem (f := fun kind => JsonCodec.Case.mk (declaredName kind) false)
      (mem_all kind)
  have hread := hcodec.readCase?_str hnames hmem
  rw [caseName_declaredName hcodec] at hread
  rw [ofJson?, hread, Option.bind_some]
  cases kind <;> decide +kernel

end Kind

namespace Literal

/-- The form of a literal that is no double, or of none. -/
inductive IsForm : Option Literal → Json → Prop
  | none : IsForm none .null
  | str (text : String) : IsForm (some (str text)) (.obj [("Str", .str text)])
  | bool (value : Bool) : IsForm (some (bool value)) (.obj [("Bool", .bool value)])
  | null : IsForm (some null) (.str "Null")

variable {literal : Option Literal} {json : Json}

theorem isForm_writeOptional (hcodec : codec.Documented)
    (h : ∀ value, literal ≠ some (number value)) :
    IsForm literal (codec.writeOptional (literal.map (toJson codec))) := by
  cases literal with
  | none =>
      rw [Option.map_none, hcodec.writeOptional_none]
      exact .none
  | some literal =>
      rw [Option.map_some, hcodec.writeOptional_some]
      cases literal with
      | number value => exact absurd rfl (h value)
      | str text =>
          rw [toJson, hcodec.writeCase_some, hcodec.writeText_eq, hcodec.caseName_asDeclared]
          exact .str text
      | bool value =>
          rw [toJson, hcodec.writeCase_some, hcodec.writeBool_eq, hcodec.caseName_asDeclared]
          exact .bool value
      | null =>
          rw [toJson, hcodec.writeCase_none, hcodec.caseName_asDeclared]
          exact .null

theorem ofJson?_of_isForm (hcodec : codec.Documented) {found : Literal}
    (h : IsForm (some found) json) : ofJson? codec json = some found := by
  have hnames : (cases.map (codec.caseName .asDeclared ·.name)).Nodup := by
    simp only [hcodec.caseName_asDeclared]
    decide
  have hcarried : ∀ name, ⟨name, true⟩ ∈ cases → ∀ json,
      codec.readCase? .asDeclared cases (.obj [(name, json)]) = some (name, some json) := by
    intro name hmem json
    have hread := hcodec.readCase?_obj hnames hmem json
    rwa [hcodec.caseName_asDeclared] at hread
  cases h with
  | str text => simp [ofJson?, hcarried "Str" (by simp [cases]), hcodec.readText?_str]
  | bool value => simp [ofJson?, hcarried "Bool" (by simp [cases]), hcodec.readBool?_bool]
  | null =>
      have hread := hcodec.readCase?_str hnames (show ⟨"Null", false⟩ ∈ cases by simp [cases])
      rw [hcodec.caseName_asDeclared] at hread
      simp [ofJson?, hread]

end Literal

/-! ## tokens -/

namespace Token

/-- The numbers of a token are words, and its literal is no double. -/
structure Storable (token : Token) : Prop where
  line_lt : token.line < countLimit
  span : token.span.Storable
  literal_ne : ∀ value, token.literal ≠ some (.number value)

/-- The fields of a token but the literal, with a form of its span. -/
def fields (token : Token) (span : Json) : List (String × Json) :=
  [("kind", .str token.kind.name), ("text", .str token.text), ("line", .integer token.line),
    ("span", span)]

/-- The forms of a token.  The literal may be missing if there is none. -/
inductive IsForm (token : Token) : Json → Prop
  | whole {span literal json : Json} (hspan : token.span.IsForm span)
      (hliteral : Literal.IsForm token.literal literal)
      (hjson : Json.IsRecord (token.fields span ++ [("literal", literal)]) [] json) :
      IsForm token json
  | short {span json : Json} (hspan : token.span.IsForm span) (hliteral : token.literal = none)
      (hjson : Json.IsRecord (token.fields span) ["literal"] json) : IsForm token json

variable {token : Token} {json : Json}

theorem isForm_toJson (hcodec : codec.Documented) (h : token.Storable) :
    token.IsForm (token.toJson codec) := by
  have hwritten : token.toJson codec = codec.writeRecord (token.fields (token.span.toJson codec) ++
      [("literal", codec.writeOptional (token.literal.map (Literal.toJson codec)))]) := by
    simp only [toJson, fields, Kind.toJson_eq hcodec, hcodec.writeText_eq, hcodec.writeWord_eq]
    rfl
  have hnames : ["kind", "text", "line", "span", "literal"].Nodup := by decide
  rw [hwritten]
  exact .whole (token.span.isForm_toJson hcodec)
    (Literal.isForm_writeOptional hcodec h.literal_ne) (Json.isRecord_writeRecord hcodec hnames)

theorem literalOfJson?_of_isForm (hcodec : codec.Documented) {literal : Option Literal}
    (h : Literal.IsForm literal json) : literalOfJson? codec (some json) = some literal := by
  have hne : ∀ found, literal = some found → json ≠ .null := by
    rintro found rfl
    cases h <;> simp
  rw [literalOfJson?, Option.bind_some]
  cases literal with
  | none =>
      cases h
      rw [hcodec.readOptional_null]
  | some found =>
      rw [hcodec.readOptional_of_ne (hne found rfl)]
      exact congrArg (Option.map some) (Literal.ofJson?_of_isForm hcodec h)

/-- A token is read from its fields. -/
theorem ofJson?_of_readRecord? (hcodec : codec.Documented) {span : Json} {literal : Option Json}
    (h : token.Storable) (hspan : token.span.IsForm span)
    (hread : codec.readRecord? declaration json =
      some ((token.fields span).map (some ·.2) ++ [literal]))
    (hliteral : literalOfJson? codec literal = some token.literal) :
    ofJson? codec json = some token := by
  have hlimit : countLimit ≤ offsetLimit := by decide
  rw [ofJson?, hread]
  simp [fields, Kind.ofJson?_str hcodec, hcodec.readText?_str,
    hcodec.readWord?_integer hlimit h.line_lt, Span.ofJson?_of_isForm hcodec h.span hspan, hliteral]

/-- A storable token is read from each of its forms. -/
theorem ofJson?_of_isForm (hcodec : codec.Documented) (h : token.Storable)
    (hform : token.IsForm json) : ofJson? codec json = some token := by
  cases hform with
  | whole hspan hliteral hjson =>
      exact ofJson?_of_readRecord? hcodec h hspan
        (hjson.readRecord?_eq hcodec rfl (by decide) (by simp))
        (literalOfJson?_of_isForm hcodec hliteral)
  | short hspan hliteral hjson =>
      exact ofJson?_of_readRecord? hcodec h hspan
        (hjson.readRecord?_eq hcodec rfl (by decide) (by decide))
        (congrArg some hliteral.symm)

theorem listOfJson?_listToJson (hcodec : codec.Documented) {tokens : List Token}
    (h : ∀ token ∈ tokens, token.Storable) :
    listOfJson? codec (listToJson codec tokens) = some tokens := by
  rw [listToJson, listOfJson?, hcodec.writeSequence_eq, hcodec.readSequence?_arr]
  show (tokens.map (toJson codec)).mapM (ofJson? codec) = some tokens
  induction tokens with
  | nil => rfl
  | cons token tokens ih =>
      obtain ⟨hhead, htail⟩ := List.forall_mem_cons.1 h
      have hread := ofJson?_of_isForm hcodec hhead (isForm_toJson hcodec hhead)
      rw [List.map_cons, List.mapM_cons, hread, ih htail]
      rfl

end Token

/-! ## the tokens of a scan -/

/-- Line and column count characters. -/
theorem Place.Counts.le_length {place : Place} {ends : List Bool} (h : place.Counts ends) :
    place.line ≤ 1 + ends.length ∧ place.column ≤ 1 + ends.length := by
  have hcount := ends.count_le_length (a := true)
  have hrun := (List.takeWhile_sublist (!·) (l := ends.reverse)).length_le
  rw [List.length_reverse] at hrun
  have hline := h.line_eq
  have hcolumn := h.column_eq
  omega

theorem length_flatMap_lineEnds (rule : LineRule) (pieces : List Piece) :
    (pieces.flatMap (·.lineEnds rule)).length = (joined pieces).length := by
  induction pieces with
  | nil => rfl
  | cons piece pieces ih => simp [ih]

theorem mem_results_of_mem_scan {settings : Settings} {source : List Char} {tokens : List Token}
    (h : scanWith settings source = .ok tokens) {token : Token} (hmem : token ∈ tokens) :
    .ok token ∈ (Scanner.start settings.lineRule source).results := by
  obtain ⟨pieces, hcuts, rfl⟩ := cuts_of_scan_ok h
  rw [Scanner.results_start settings.lineRule hcuts]
  exact List.mem_append_left _ (List.mem_map_of_mem (List.mem_filter.1 hmem).1)

/-- The tokens of a run over a source that has room for its counts have words for numbers. -/
theorem storable_of_mem_results {rule : LineRule} {source : List Char} {token : Token}
    (h : .ok token ∈ (Scanner.start rule source).results) (hroom : source.length + 1 < countLimit) :
    token.span.Storable := by
  obtain ⟨pieces, piece, rest, hcuts, rfl⟩ := Scanner.exists_cuts_of_mem h
  have hcovers := Token.covers_of_cuts rule hcuts
  have hlength := congrArg List.length hcovers.source_eq
  have hbytes := congrArg Text.byteLength hcovers.source_eq
  simp only [List.length_append, Text.byteLength_append] at hlength hbytes
  have hfour := Text.byteLength_le source
  have hlimit : 4 * countLimit ≤ offsetLimit := by decide
  have hstart := hcovers.start_eq
  have hstop := hcovers.stop_eq
  have hcounts := (Place.Counts.start.pastPieces rule pieces).le_length
  rw [List.nil_append, length_flatMap_lineEnds] at hcounts
  refine ⟨by omega, by omega, ?_, ?_⟩
  · exact Nat.lt_of_le_of_lt hcounts.1 (by omega)
  · exact Nat.lt_of_le_of_lt hcounts.2 (by omega)

/-- **Tokens survive JSON**, whatever library stores them, if it does what is documented.
What it writes of a storable token is one of the token's forms, and from each form it reads
the token.  From the tokens of a scan, stored as an array, it reads the same tokens: those of
a source that has room for its counts, and of any other one if at least their spans are
storable. -/
theorem tokens_survive_storing (codec : JsonCodec) (hcodec : codec.Documented) :
    (∀ token : Token, token.Storable →
      Token.ofJson? codec (token.toJson codec) = some token ∧
        token.IsForm (token.toJson codec) ∧
        ∀ json, token.IsForm json → Token.ofJson? codec json = some token) ∧
    ∀ settings source tokens, scanWith settings source = .ok tokens →
      source.length + 1 < countLimit ∨ (∀ token ∈ tokens, token.span.Storable) →
      Token.listOfJson? codec (Token.listToJson codec tokens) = some tokens := by
  refine ⟨fun token h => ?_, fun settings source tokens hscan hroom => ?_⟩
  · have hform := Token.isForm_toJson hcodec h
    exact ⟨Token.ofJson?_of_isForm hcodec h hform, hform, fun json =>
      Token.ofJson?_of_isForm hcodec h⟩
  · refine Token.listOfJson?_listToJson hcodec fun token hmem => ?_
    have hresult := mem_results_of_mem_scan hscan hmem
    have hspan : token.span.Storable := hroom.elim (storable_of_mem_results hresult) (· token hmem)
    obtain ⟨pieces, piece, rest, -, rfl⟩ := Scanner.exists_cuts_of_mem hresult
    exact ⟨hspan.line_lt, hspan, fun value hvalue => by cases hvalue⟩

/-- The largest numbers, the span as an array, a field of another name, the other ones in
reverse, and no literal. -/
theorem tokens_survive_storing_reversed :
    JsonCodec.standard.Documented ∧
    Token.ofJson? .standard (.obj [("extra", .null), ("span", .arr [.integer 18446744073709551615,
      .integer 0, .integer 4294967295, .integer 7]), ("line", .integer 1), ("text", .str "\n"),
        ("kind", .str "LESS_EQUAL")]) =
      some ⟨.lessEqual, "\n", 1, ⟨18446744073709551615, 0, 4294967295, 7⟩, none⟩ ∧
    Token.listOfJson? .standard (.arr [.obj [("kind", .str "STRING"), ("text", .str ""),
      ("line", .integer 1), ("span", .obj [("start", .integer 0), ("end", .integer 2),
        ("line", .integer 1), ("column", .integer 1)]), ("literal", .null)]]) =
      some [.of .string "" ⟨0, 2, 1, 1⟩] := by
  have hstored := tokens_survive_storing .standard JsonCodec.documented_standard
  have hspan : Span.Storable ⟨18446744073709551615, 0, 4294967295, 7⟩ :=
    ⟨by decide, by decide, by decide, by decide⟩
  have hall := List.reverse_perm [("kind", Json.str "LESS_EQUAL"), ("text", .str "\n"),
    ("line", .integer 1), ("span", .arr [.integer 18446744073709551615, .integer 0,
      .integer 4294967295, .integer 7]), ("extra", .null)]
  refine ⟨JsonCodec.documented_standard, ?_, ?_⟩
  · refine (hstored.1 ⟨.lessEqual, "\n", 1, ⟨18446744073709551615, 0, 4294967295, 7⟩, none⟩
      ⟨by decide, hspan, by simp⟩).2.2 _ (.short .array rfl (.object hall ?_ ?_))
    · show ["extra", "span", "line", "text", "kind"].Nodup
      decide
    · simp
  · exact hstored.2 ⟨.legacy⟩ ['"', '"'] [.of .string "" ⟨0, 2, 1, 1⟩]
      (by decide +kernel) (.inl (by decide))

end ScriptScan
