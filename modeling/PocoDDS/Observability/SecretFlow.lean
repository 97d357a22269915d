import PocoDDS.Observability.Sanitize

/-! Whether secrets under sensitive names influence what traces show. -/

namespace PocoDDS.Observability

section Relations

variable (policy : DataPolicy)

mutual

/-- Two documents that differ at most in what stands under sensitive names. -/
inductive Alike : JsonValue → JsonValue → Prop
  | same (value : JsonValue) : Alike value value
  | array {left right : List JsonValue} (items : ItemsAlike left right) :
      Alike (.array left) (.array right)
  | object {left right : List (Bytes × JsonValue)} (members : MembersAlike left right) :
      Alike (.object left) (.object right)

/-- Item by item. -/
inductive ItemsAlike : List JsonValue → List JsonValue → Prop
  | nil : ItemsAlike [] []
  | cons {left right : JsonValue} {lefts rights : List JsonValue} (head : Alike left right)
      (tail : ItemsAlike lefts rights) : ItemsAlike (left :: lefts) (right :: rights)

/-- Member by member, with the same names; a value under a sensitive name may be any other. -/
inductive MembersAlike : List (Bytes × JsonValue) → List (Bytes × JsonValue) → Prop
  | nil : MembersAlike [] []
  | secret {name : Bytes} {left right : JsonValue} {lefts rights : List (Bytes × JsonValue)}
      (sensitive : isSensitiveKey policy name = true) (tail : MembersAlike lefts rights) :
      MembersAlike ((name, left) :: lefts) ((name, right) :: rights)
  | plain {name : Bytes} {left right : JsonValue} {lefts rights : List (Bytes × JsonValue)}
      (head : Alike left right) (tail : MembersAlike lefts rights) :
      MembersAlike ((name, left) :: lefts) ((name, right) :: rights)

end

/-- Two texts that are equal, or the texts of two composite documents that are alike. -/
def TextsAlike (json : JsonText) (left right : Bytes) : Prop :=
  left = right ∨ ∃ leftDocument rightDocument,
    json.parse left = some leftDocument ∧ json.parse right = some rightDocument ∧
      leftDocument.composite = true ∧ Alike policy leftDocument rightDocument

/-- Two maps with the same keys that differ only where secrets may stand. -/
def FieldsAlike (json : JsonText) (left right : Fields) : Prop :=
  List.Forall₂ (fun first second => first.1 = second.1 ∧
    (isSensitiveKey policy first.1 = true ∨ TextsAlike policy json first.2 second.2)) left right

/-- What is documented of the JSON library: an empty text is no document, and the text of an
object or an array begins with its brace or bracket. -/
structure JsonText.Standard (json : JsonText) : Prop where
  empty : json.parse [] = none
  opening : ∀ document : JsonValue, document.composite = true →
    looksLikeJson (json.stringify document) = true

end Relations

section Documents

variable {policy : DataPolicy}

mutual

theorem Alike.sanitize_eq {left right : JsonValue} (alike : Alike policy left right)
    (depth : Nat) : sanitizeJsonValue policy depth left = sanitizeJsonValue policy depth right := by
  cases alike with
  | same => rfl
  | array items =>
    simp only [sanitizeJsonValue, items.sanitize_eq depth policy.maximumFieldCount]
  | object members =>
    simp only [sanitizeJsonValue, members.sanitize_eq depth policy.maximumFieldCount]

theorem ItemsAlike.sanitize_eq {left right : List JsonValue} (alike : ItemsAlike policy left right)
    (depth room : Nat) : sanitizeItems policy depth room left = sanitizeItems policy depth room right := by
  cases alike with
  | nil => rfl
  | cons head tail =>
    cases room with
    | zero => rfl
    | succ room =>
      rw [sanitizeItems, sanitizeItems, head.sanitize_eq (depth + 1), tail.sanitize_eq depth room]

theorem MembersAlike.sanitize_eq {left right : List (Bytes × JsonValue)}
    (alike : MembersAlike policy left right) (depth room : Nat) :
    sanitizeMembers policy depth room left = sanitizeMembers policy depth room right := by
  cases alike with
  | nil => rfl
  | secret sensitive tail =>
    cases room with
    | zero => rfl
    | succ room =>
      -- Both values are replaced, whatever they are.
      rw [sanitizeMembers, sanitizeMembers, if_pos sensitive, if_pos sensitive,
        tail.sanitize_eq depth room]
  | plain head tail =>
    cases room with
    | zero => rfl
    | succ room =>
      rw [sanitizeMembers, sanitizeMembers, head.sanitize_eq (depth + 1),
        tail.sanitize_eq depth room]

end

theorem Alike.composite_eq {left right : JsonValue} (alike : Alike policy left right) :
    left.composite = right.composite := by
  cases alike <;> rfl

theorem sanitize_composite {document : JsonValue} (composite : document.composite = true) :
    (sanitizeJsonValue policy 0 document).composite = true := by
  cases document with
  | object members => rfl
  | array items => rfl
  | _ => cases composite

end Documents

section Texts

variable {json : JsonText} {policy : DataPolicy}

/-- When two texts with the same public part are shown alike. -/
def ShownAlike (policy : DataPolicy) (left right : Bytes) : Prop :=
  (looksLikeJson left = true ∧ looksLikeJson right = true) ∨
    (looksLikeJson left = false ∧ looksLikeJson right = false ∧
      cut policy left = cut policy right) ∨
    policy.maximumValueLength = 0

theorem looksLikeJson_cut (positive : policy.maximumValueLength ≠ 0) (text : Bytes) :
    looksLikeJson (cut policy text) = looksLikeJson text := by
  unfold cut
  split
  · cases text with
    | nil => simp_all
    | cons first rest =>
      obtain ⟨limit, same⟩ := Nat.exists_eq_succ_of_ne_zero positive
      simp [looksLikeJson, same]
  · rfl

/-- Without room for any byte, only the mark is left. -/
theorem cut_of_zero (zero : policy.maximumValueLength = 0) {text : Bytes} (nonempty : text ≠ []) :
    cut policy text = bytes "...[TRUNCATED]" := by
  have long : text.length > policy.maximumValueLength := by
    rw [zero]
    exact List.length_pos_iff.mpr nonempty
  rw [cut, if_pos long, zero]
  rfl

theorem nonempty_of_looksLikeJson {text : Bytes} (looks : looksLikeJson text = true) : text ≠ [] := by
  rintro rfl
  cases looks

theorem sanitizeValue_document {text : Bytes} {document : JsonValue}
    (looks : looksLikeJson text = true) (parsed : json.parse text = some document)
    (composite : document.composite = true) :
    sanitizeValue json policy text =
      cut policy (json.stringify (sanitizeJsonValue policy 0 document)) := by
  simp [sanitizeValue, looks, parsed, sanitize_composite composite]

theorem sanitizeValue_verbatim {text : Bytes} (plain : looksLikeJson text = false) :
    sanitizeValue json policy text = cut policy text := by
  simp [sanitizeValue, plain]

/-- A document that is recognised is never shown as one that is not. -/
theorem document_eq_verbatim_iff (standard : json.Standard) {left right : Bytes}
    {document : JsonValue} (looks : looksLikeJson left = true)
    (parsed : json.parse left = some document) (composite : document.composite = true)
    (plain : looksLikeJson right = false) (nonempty : right ≠ []) :
    sanitizeValue json policy left = sanitizeValue json policy right ↔
      policy.maximumValueLength = 0 := by
  have opening : looksLikeJson (json.stringify (sanitizeJsonValue policy 0 document)) = true :=
    standard.opening _ (sanitize_composite composite)
  rw [sanitizeValue_document looks parsed composite, sanitizeValue_verbatim plain]
  constructor
  · intro same
    by_contra positive
    -- One text begins with a bracket and the other does not.
    have first := congrArg looksLikeJson same
    rw [looksLikeJson_cut positive, looksLikeJson_cut positive, opening, plain] at first
    cases first
  · intro zero
    rw [cut_of_zero zero (nonempty_of_looksLikeJson opening), cut_of_zero zero nonempty]

theorem TextsAlike.shown_iff (standard : json.Standard) {left right : Bytes}
    (alike : TextsAlike policy json left right) :
    sanitizeValue json policy left = sanitizeValue json policy right ↔
      ShownAlike policy left right := by
  rcases alike with rfl | ⟨leftDocument, rightDocument, leftParsed, rightParsed, composite, alike⟩
  · refine ⟨fun _ => ?_, fun _ => rfl⟩
    cases looks : looksLikeJson left with
    | true => exact .inl ⟨looks, looks⟩
    | false => exact .inr (.inl ⟨looks, looks, rfl⟩)
  · have rightComposite : rightDocument.composite = true := alike.composite_eq ▸ composite
    have parsed_ne : ∀ {text document}, json.parse text = some document → text ≠ [] := by
      rintro text document parsed rfl
      rw [standard.empty] at parsed
      cases parsed
    cases leftLooks : looksLikeJson left with
    | true =>
      cases rightLooks : looksLikeJson right with
      | true =>
        -- Both are recognised, and their sanitised documents are the same.
        refine ⟨fun _ => .inl ⟨leftLooks, rightLooks⟩, fun _ => ?_⟩
        rw [sanitizeValue_document leftLooks leftParsed composite,
          sanitizeValue_document rightLooks rightParsed rightComposite, alike.sanitize_eq 0]
      | false =>
        rw [document_eq_verbatim_iff standard leftLooks leftParsed composite rightLooks
          (parsed_ne rightParsed)]
        simp [ShownAlike, leftLooks, rightLooks]
    | false =>
      cases rightLooks : looksLikeJson right with
      | true =>
        rw [eq_comm, document_eq_verbatim_iff standard rightLooks rightParsed rightComposite
          leftLooks (parsed_ne leftParsed)]
        simp [ShownAlike, leftLooks, rightLooks]
      | false =>
        -- Neither is recognised, so both are kept as they are.
        rw [sanitizeValue_verbatim leftLooks, sanitizeValue_verbatim rightLooks]
        constructor
        · intro same
          exact .inr (.inl ⟨leftLooks, rightLooks, same⟩)
        · rintro (⟨wrong, -⟩ | ⟨-, -, same⟩ | zero)
          · rw [leftLooks] at wrong
            cases wrong
          · exact same
          · rw [cut_of_zero zero (parsed_ne leftParsed), cut_of_zero zero (parsed_ne rightParsed)]

/-- Two maps that differ only in secrets are shown alike exactly when every kept plain field is. -/
theorem sanitize_hides_secrets_iff (standard : json.Standard) {left right : Fields}
    (alike : FieldsAlike policy json left right) :
    sanitize json policy left = sanitize json policy right ↔
      ∀ pair ∈ (left.zip right).take policy.maximumFieldCount,
        isSensitiveKey policy pair.1.1 = false → ShownAlike policy pair.1.2 pair.2.2 := by
  unfold sanitize
  generalize policy.maximumFieldCount = room
  induction alike generalizing room with
  | nil => simp
  | @cons first second lefts rights related rest ih =>
    cases room with
    | zero => simp
    | succ room =>
      obtain ⟨key, related⟩ := related
      simp only [List.take_succ_cons, List.map_cons, List.zip_cons_cons, List.cons.injEq,
        Prod.mk.injEq, List.forall_mem_cons, ih room, key, true_and]
      apply and_congr_left
      intro _
      cases sensitive : isSensitiveKey policy second.1 with
      | true => simp
      | false =>
        rw [key, sensitive] at related
        rcases related with wrong | texts
        · cases wrong
        · simpa using texts.shown_iff standard

end Texts

mutual

/-- The compact text of a document, for strings without characters that need escaping. -/
def renderJson : JsonValue → Bytes
  | .null => bytes "null"
  | .bool value => bytes (if value then "true" else "false")
  | .number digits => digits
  | .string value => 0x22 :: value ++ [0x22]
  | .array items => 0x5b :: renderItems items ++ [0x5d]
  | .object members => 0x7b :: renderMembers members ++ [0x7d]

def renderItems : List JsonValue → Bytes
  | [] => []
  | [item] => renderJson item
  | item :: rest => renderJson item ++ 0x2c :: renderItems rest

def renderMembers : List (Bytes × JsonValue) → Bytes
  | [] => []
  | [(name, value)] => 0x22 :: name ++ 0x22 :: 0x3a :: renderJson value
  | (name, value) :: rest =>
    0x22 :: name ++ 0x22 :: 0x3a :: (renderJson value ++ 0x2c :: renderMembers rest)

end

/-- A library that writes compact text and reads the given texts. -/
def tableJson (texts : List (Bytes × JsonValue)) : JsonText where
  parse := fun text => texts.lookup text
  stringify := renderJson

theorem tableJson_standard {texts : List (Bytes × JsonValue)} (absent : texts.lookup [] = none) :
    (tableJson texts).Standard where
  empty := absent
  opening := by
    intro document composite
    cases document with
    | object members => simp [tableJson, renderJson, looksLikeJson]
    | array items => simp [tableJson, renderJson, looksLikeJson]
    | _ => cases composite

def sampleCredentials (password : String) : JsonValue :=
  .object [(bytes "password", .string (bytes password))]

/-- Their text, with or without blanks in front of it. -/
def sampleText (lead password : String) : Bytes :=
  bytes lead ++ renderJson (sampleCredentials password)

/-- A library that reads the credentials in either layout. -/
def sampleJson (lead : String) : JsonText :=
  tableJson [(sampleText lead "alpha", sampleCredentials "alpha"),
    (sampleText lead "omega", sampleCredentials "omega")]

theorem sampleFields_alike (lead : String)
    (distinct : (sampleText lead "omega" != sampleText lead "alpha") = true) :
    FieldsAlike {} (sampleJson lead) [(bytes "request.payload", sampleText lead "alpha")]
      [(bytes "request.payload", sampleText lead "omega")] := by
  refine .cons ⟨rfl, .inr (.inr ⟨sampleCredentials "alpha", sampleCredentials "omega", ?_, ?_, rfl,
    ?_⟩)⟩ .nil
  · exact List.lookup_eq_some_iff.mpr ⟨[], _, rfl, by simp⟩
  · exact List.lookup_eq_some_iff.mpr
      ⟨[(sampleText lead "alpha", sampleCredentials "alpha")], _, rfl, by simpa using distinct⟩
  · exact .object (.secret (by decide +kernel) .nil)

/-- A recognised document hides its password. -/
theorem sanitize_hides_secrets_compact :
    sanitize (sampleJson "") {} [(bytes "request.payload", sampleText "" "alpha")] =
      sanitize (sampleJson "") {} [(bytes "request.payload", sampleText "" "omega")] := by
  refine (sanitize_hides_secrets_iff (tableJson_standard (by decide +kernel))
    (sampleFields_alike "" (by decide +kernel))).mpr ?_
  intro pair member _
  have single : pair = ((bytes "request.payload", sampleText "" "alpha"),
      (bytes "request.payload", sampleText "" "omega")) := by
    simpa [DataPolicy.maximumFieldCount] using member
  rw [single]
  exact .inl (by decide +kernel)

/-- A blank in front of the same document shows it. -/
theorem sanitize_shows_secret_after_blank :
    FieldsAlike {} (sampleJson " ") [(bytes "request.payload", sampleText " " "alpha")]
        [(bytes "request.payload", sampleText " " "omega")] ∧
      sanitize (sampleJson " ") {} [(bytes "request.payload", sampleText " " "alpha")] =
        [(bytes "request.payload", bytes " \x7b\"password\":\"alpha\"\x7d")] ∧
      sanitize (sampleJson " ") {} [(bytes "request.payload", sampleText " " "alpha")] ≠
        sanitize (sampleJson " ") {} [(bytes "request.payload", sampleText " " "omega")] :=
  ⟨sampleFields_alike " " (by decide +kernel), by decide +kernel, by decide +kernel⟩

end PocoDDS.Observability
