import Allgres.Dashboard.Endpoints
import Allgres.Lib.QueryString

/-! What the authorization server reads in the URL that an operator is sent to. -/

namespace Allgres

open Relational Jsonb Sql QueryString
open RustStr (splitOnce)

variable {text more name value : List Char} {fields : List (List Char × List Char)}

/-! ### Blanks -/

def blanked (text : List Char) : List Char := text.flatMap fun c => if c == ' ' then ['%', '2', '0'] else [c]

theorem percentBlanks_toList (text : String) : (percentBlanks text).toList = blanked text.toList := String.toList_ofList

theorem blanked_blank (text : List Char) : blanked (' ' :: text) = '%' :: '2' :: '0' :: blanked text := rfl

theorem blanked_char {c : Char} (visible : c ≠ ' ') (text : List Char) : blanked (c :: text) = c :: blanked text := by
  rw [blanked, List.flatMap_cons, if_neg (by simpa using visible)]
  rfl

theorem hexByte?_blanked (text : List Char) : hexByte? (blanked text) = hexByte? text := by
  match text with
  | [] => rfl
  | [a] =>
    by_cases blank : a = ' '
    · subst blank; rfl
    · rw [blanked_char blank]; rfl
  | a :: b :: rest =>
    by_cases blank : a = ' '
    · subst blank; rfl
    · rw [blanked_char blank]
      by_cases second : b = ' '
      · subst second
        rw [blanked_blank, hexByte?, hexByte?]
        cases hexDigit a <;> rfl
      · rw [blanked_char second]
        rfl

/-- The characters behind an escape are not blanks. -/
theorem drop_blanked {byte : UInt8} (escape : hexByte? text = some byte) : (blanked text).drop 2 = blanked (text.drop 2) := by
  match text with
  | [] => cases escape
  | [a] => cases escape
  | a :: b :: rest =>
    have first : a ≠ ' ' := by rintro rfl; cases escape
    have second : b ≠ ' ' := by
      rintro rfl
      rw [hexByte?] at escape
      cases found : hexDigit a <;> rw [found] at escape <;> cases escape
    rw [blanked_char first, blanked_char second]
    rfl

theorem decode_blanked_blank (text : List Char) : decode (blanked (' ' :: text)) = 32 :: decode (blanked text) := by
  rw [blanked_blank, decode_escape (show hexByte? ('2' :: '0' :: blanked text) = some 32 from rfl)]
  rfl

/-- What a value reads like is no longer than the value. -/
theorem decode_blanked_le (text : List Char) : (decode (blanked text)).length ≤ (utf8 text).length := by
  induction length : text.length using Nat.strong_induction_on generalizing text with
  | _ n ih =>
    match text with
    | [] => exact Nat.le_refl 0
    | c :: rest =>
      rw [List.length_cons] at length
      have short := ih rest.length (by omega) rest rfl
      have size := utf8EncodeChar_pos c
      rw [utf8_cons, List.length_append]
      by_cases blank : c = ' '
      · subst blank
        rw [decode_blanked_blank, List.length_cons]
        omega
      · rw [blanked_char blank]
        by_cases percent : c = '%'
        · subst percent
          have same := hexByte?_blanked rest
          cases escape : hexByte? rest with
          | none =>
            rw [escape] at same
            rw [decode_percent same, List.length_cons]
            omega
          | some byte =>
            rw [escape] at same
            have fewer : (rest.drop 2).length < n := by rw [List.length_drop]; omega
            have behind := ih _ fewer (rest.drop 2) rfl
            have part := utf8_drop_add_le (length_of_hexByte? escape)
            rw [decode_escape same, drop_blanked escape, List.length_cons]
            omega
        · rw [decode_char percent, List.length_append]
          omega

theorem decode_blanked (bare : escaped text = false) : decode (blanked text) = utf8 text := by
  induction text with
  | nil => rfl
  | cons c rest ih =>
    rw [escaped, Bool.or_eq_false_iff] at bare
    obtain ⟨first, bare⟩ := bare
    rw [utf8_cons, ← ih bare]
    by_cases blank : c = ' '
    · subst blank
      exact decode_blanked_blank rest
    · rw [blanked_char blank]
      by_cases percent : c = '%'
      · subst percent
        have none : hexByte? (blanked rest) = none := by
          rw [hexByte?_blanked]
          simpa using first
        exact decode_percent none
      · exact decode_char percent _

/-- An escape in a value is read for something shorter. -/
theorem decode_blanked_lt (some : escaped text = true) : (decode (blanked text)).length < (utf8 text).length := by
  induction text with
  | nil => cases some
  | cons c rest ih =>
    have size := utf8EncodeChar_pos c
    rw [utf8_cons, List.length_append]
    by_cases first : c = '%' ∧ ∃ byte, hexByte? rest = Option.some byte
    · obtain ⟨rfl, byte, escape⟩ := first
      have same := (hexByte?_blanked rest).trans escape
      have behind := decode_blanked_le (rest.drop 2)
      have part := utf8_drop_add_le (length_of_hexByte? escape)
      rw [blanked_char (by decide), decode_escape same, drop_blanked escape, List.length_cons]
      omega
    · rw [escaped, Bool.or_eq_true, Bool.and_eq_true, beq_iff_eq, Option.isSome_iff_exists] at some
      have short := ih (some.resolve_left first)
      by_cases blank : c = ' '
      · subst blank
        rw [decode_blanked_blank, List.length_cons]
        omega
      · rw [blanked_char blank]
        by_cases percent : c = '%'
        · subst percent
          have none : hexByte? (blanked rest) = none := by
            rw [hexByte?_blanked]
            exact Option.eq_none_iff_forall_ne_some.mpr fun byte found => first ⟨rfl, byte, found⟩
          rw [decode_percent none, List.length_cons]
          omega
        · rw [decode_char percent, List.length_append]
          omega

/-! ### The text of parameters -/

/-- A value that comes through as it is. -/
def Verbatim (value : List Char) : Prop := '&' ∉ value ∧ '#' ∉ value ∧ escaped value = false

/-- Neither the end of a parameter nor that of the query. -/
def inValue (c : Char) : Bool := c != '&' && c != '#'

/-- What of a value belongs to its parameter. -/
def valueRead (value : List Char) : List Char := value.takeWhile inValue

theorem valueRead_append_dropWhile (value : List Char) : valueRead value ++ value.dropWhile inValue = value :=
  List.takeWhile_append_dropWhile

theorem inValue_iff {c : Char} : inValue c = true ↔ c ≠ '&' ∧ c ≠ '#' := by
  rw [inValue, Bool.and_eq_true, bne_iff_ne, bne_iff_ne]

/-- Behind what is read of a value comes a separator or nothing. -/
theorem dropWhile_inValue (value : List Char) : value.dropWhile inValue = [] ∨
    (∃ rest, value.dropWhile inValue = '&' :: rest) ∨ ∃ rest, value.dropWhile inValue = '#' :: rest := by
  induction value with
  | nil => exact .inl rfl
  | cons c rest ih =>
    by_cases passes : inValue c = true
    · rw [List.dropWhile_cons_of_pos passes]
      exact ih
    · rw [List.dropWhile_cons_of_neg passes]
      rw [inValue_iff, not_and_or, not_not, not_not] at passes
      rcases passes with rfl | rfl
      · exact .inr (.inl ⟨rest, rfl⟩)
      · exact .inr (.inr ⟨rest, rfl⟩)

theorem valueRead_eq (value : List Char) : valueRead value = value ↔ '&' ∉ value ∧ '#' ∉ value := by
  rw [valueRead, List.takeWhile_eq_self_iff]
  constructor
  · intro passes
    exact ⟨fun inside => (inValue_iff.mp (passes '&' inside)).1 rfl, fun inside => (inValue_iff.mp (passes '#' inside)).2 rfl⟩
  · intro ⟨joint, fragment⟩ c inside
    exact inValue_iff.mpr ⟨by rintro rfl; exact joint inside, by rintro rfl; exact fragment inside⟩

/-- Only a verbatim value is read as it is. -/
theorem decode_valueRead_iff (value : List Char) : decode (blanked (valueRead value)) = utf8 value ↔ Verbatim value := by
  constructor
  · intro same
    have lengths := congrArg List.length same
    have short := decode_blanked_le (valueRead value)
    have whole := congrArg (fun text => (utf8 text).length) (valueRead_append_dropWhile value)
    simp only [utf8, List.flatMap_append, List.length_append] at whole
    have most := utf8_length_le (value.dropWhile inValue)
    rw [utf8] at short lengths most
    have nothing : value.dropWhile inValue = [] := List.length_eq_zero_iff.mp (by omega)
    have kept := valueRead_append_dropWhile value
    rw [nothing, List.append_nil] at kept
    obtain ⟨joint, fragment⟩ := (valueRead_eq value).mp kept
    refine ⟨joint, fragment, Bool.eq_false_iff.mpr fun some => ?_⟩
    have less := decode_blanked_lt some
    rw [kept] at same
    rw [same] at less
    omega
  · rintro ⟨joint, fragment, bare⟩
    rw [(valueRead_eq value).mpr ⟨joint, fragment⟩]
    exact decode_blanked bare

theorem mem_blanked {c : Char} (inside : c ∈ blanked text) (digit : c ≠ '%' ∧ c ≠ '2' ∧ c ≠ '0') : c ∈ text := by
  obtain ⟨d, listed, inside⟩ := List.mem_flatMap.mp inside
  split at inside
  · simp [digit] at inside
  · rwa [List.mem_singleton.mp inside]

/-- Nothing, or a further parameter. -/
def Joint (text : List Char) : Prop := text = [] ∨ ∃ rest, text = '&' :: rest

theorem parameters_joined {piece behind : List Char} (plain : '&' ∉ piece) (some : piece ≠ []) (joint : Joint behind) :
    parameters (piece ++ behind) = parameter piece :: parameters behind := by
  have first := parameters_piece plain some
  rcases joint with rfl | ⟨rest, rfl⟩
  · rw [List.append_nil, first, parameters_nil]
  · rw [parameters_append, first, parameters_joint]
    rfl

theorem Joint.beforeFragment (joint : Joint text) : Joint (beforeFragment text) := by
  rcases joint with rfl | ⟨rest, rfl⟩
  · exact .inl rfl
  · exact .inr ⟨QueryString.beforeFragment rest, rfl⟩

/-- A name that has no separator in it. -/
def plainName (name : List Char) : Bool := name.all fun c => c != '&' && c != '#' && c != '=' && c != '%'

theorem plainName_mem {c : Char} (plain : plainName name = true) (inside : c ∈ name) : c ≠ '&' ∧ c ≠ '#' ∧ c ≠ '=' ∧ c ≠ '%' := by
  have each := List.all_eq_true.mp plain c inside
  simpa [and_assoc] using each

theorem decode_name (plain : plainName name = true) : decode name = utf8 name := by
  induction name with
  | nil => rfl
  | cons c rest ih =>
    have first := plainName_mem plain (List.mem_cons_self ..)
    rw [decode_char first.2.2.2, utf8_cons, ih (by rw [plainName, List.all_cons, Bool.and_eq_true] at plain; exact plain.2)]

theorem beforeFragment_append (plain : '#' ∉ text) (more : List Char) : beforeFragment (text ++ more) = text ++ beforeFragment more := by
  refine List.takeWhile_append_of_pos fun c inside => bne_iff_ne.mpr ?_
  rintro rfl
  exact plain inside

theorem field_plain (plain : plainName name = true) (joint : '&' ∉ value) : '&' ∉ name ++ '=' :: blanked value := by
  intro inside
  rcases List.mem_append.mp inside with inside | inside
  · exact (plainName_mem plain inside).1 rfl
  · rcases List.mem_cons.mp inside with same | inside
    · cases same
    · exact joint (mem_blanked inside (by decide))

theorem field_solid (plain : plainName name = true) (fragment : '#' ∉ value) : '#' ∉ name ++ '=' :: blanked value := by
  intro inside
  rcases List.mem_append.mp inside with inside | inside
  · exact (plainName_mem plain inside).2.1 rfl
  · rcases List.mem_cons.mp inside with same | inside
    · cases same
    · exact fragment (mem_blanked inside (by decide))

/-- The parameter of a value that has no separator in it. -/
theorem parameters_field (plain : plainName name = true) (clean : '&' ∉ value ∧ '#' ∉ value)
    (joint : Joint (beforeFragment more)) :
    parameters (beforeFragment (name ++ '=' :: blanked value ++ more)) =
      (utf8 name, decode (blanked value)) :: parameters (beforeFragment more) := by
  have bare : '=' ∉ name := fun inside => (plainName_mem plain inside).2.2.1 rfl
  rw [beforeFragment_append (field_solid plain clean.2), parameters_joined (field_plain plain clean.1) (by simp) joint,
    parameter_value bare, decode_name plain]

/-- The parameter of any value. -/
theorem parameters_field_read (value : List Char) (plain : plainName name = true) (joint : Joint (beforeFragment more)) :
    ∃ others, parameters (beforeFragment (name ++ '=' :: blanked value ++ more)) =
      (utf8 name, decode (blanked (valueRead value))) :: others := by
  have whole := valueRead_append_dropWhile value
  have clean : '&' ∉ valueRead value ∧ '#' ∉ valueRead value :=
    ⟨fun inside => (inValue_iff.mp (List.mem_takeWhile_imp inside)).1 rfl,
      fun inside => (inValue_iff.mp (List.mem_takeWhile_imp inside)).2 rfl⟩
  have split (rest : List Char) (behind : value.dropWhile inValue = rest) :
      name ++ '=' :: blanked value ++ more = name ++ '=' :: blanked (valueRead value) ++ (blanked rest ++ more) := by
    have parts : blanked value = blanked (valueRead value) ++ blanked rest := by
      rw [← behind, blanked, blanked, blanked, ← List.flatMap_append, whole]
    rw [parts, List.append_assoc, List.append_assoc, List.cons_append, List.append_assoc]
    rfl
  rcases dropWhile_inValue value with behind | ⟨rest, behind⟩ | ⟨rest, behind⟩
  · exact ⟨_, by rw [split _ behind]; exact parameters_field plain clean joint⟩
  · exact ⟨_, by rw [split _ behind]; exact parameters_field plain clean (.inr ⟨_, rfl⟩)⟩
  · exact ⟨_, by rw [split _ behind]; exact parameters_field plain clean (.inl rfl)⟩

/-- Parameters, each with a joint before it. -/
def queryFields (fields : List (List Char × List Char)) : List Char :=
  fields.flatMap fun field => '&' :: (field.1 ++ '=' :: blanked field.2)

theorem queryFields_joint (fields : List (List Char × List Char)) : Joint (queryFields fields) := by
  cases fields with
  | nil => exact .inl rfl
  | cons field fields => exact .inr ⟨_, rfl⟩

/-- The fields are read as they are when all of their values are verbatim. -/
theorem parameters_queryFields (plain : ∀ field ∈ fields, plainName field.1 = true) :
    parameters (beforeFragment (queryFields fields)) = fields.map (fun field => (utf8 field.1, utf8 field.2)) ↔
      ∀ field ∈ fields, Verbatim field.2 := by
  induction fields with
  | nil => exact iff_of_true rfl fun field none => absurd none List.not_mem_nil
  | cons field fields ih =>
    have first := plain field (List.mem_cons_self ..)
    have later := ih fun other inside => plain other (List.mem_cons_of_mem field inside)
    have joint := (queryFields_joint fields).beforeFragment
    have shape : parameters (beforeFragment (queryFields (field :: fields))) =
        parameters (beforeFragment (field.1 ++ '=' :: blanked field.2 ++ queryFields fields)) := parameters_joint _
    rw [shape, List.map_cons, List.forall_mem_cons, ← later]
    constructor
    · intro same
      obtain ⟨others, reads⟩ := parameters_field_read field.2 first joint
      obtain ⟨head, -⟩ := List.cons.inj (reads.symm.trans same)
      have verbatim := (decode_valueRead_iff field.2).mp (congrArg Prod.snd head)
      rw [parameters_field first ⟨verbatim.1, verbatim.2.1⟩ joint] at same
      exact ⟨verbatim, (List.cons.inj same).2⟩
    · intro ⟨verbatim, behind⟩
      rw [parameters_field first ⟨verbatim.1, verbatim.2.1⟩ joint, behind, decode_blanked verbatim.2.2]

/-! ### The URL -/

variable {env : WebEnv} {site after : Site} {answer : Json} {providerId : Option Nat} {id : Nat} {provider : ProviderRow}
  {columns : OauthColumns} {redirect authUrl clientId : String}

/-- What an authorization request says. -/
def authorizationFields (clientId state redirect : String) (scope : Option String) : List (List Char × List Char) :=
  ("response_type".toList, "code".toList) :: [("client_id".toList, clientId.toList), ("state".toList, state.toList),
    ("redirect_uri".toList, redirect.toList)] ++ (scope.map fun scope => ("scope".toList, scope.toList)).toList

/-- The query of the answer's URL consists of the parameters of another one and of these fields. -/
def Decodable (answer : Json) (authUrl : String) (fields : List (List Char × List Char)) : Prop :=
  ∃ url, answer.getText? "redirect_url" = some url ∧
    parameters (query url.toList) =
      parameters (query authUrl.toList) ++ fields.map fun field => (utf8 field.1, utf8 field.2)

/-- The joint of a base and the first field. -/
def jointOf (base : List Char) : Char := if base.getLast? = some '?' then '&' else '?'

/-- A base that has no query, or whose query is still open. -/
def OpenEnded (base : List Char) : Prop := '?' ∉ base ∨ base.getLast? = some '?'

theorem parameters_open {base : List Char} (whole : '#' ∉ base) (free : OpenEnded base) (tail : List Char) :
    parameters (query (base ++ jointOf base :: tail)) =
      parameters (query base) ++ parameters (beforeFragment ('&' :: tail)) := by
  have own := beforeFragment_append whole []
  rw [List.append_nil, show beforeFragment [] = [] from rfl, List.append_nil] at own
  have first : parameters (beforeFragment ('&' :: tail)) = parameters (beforeFragment tail) := parameters_joint _
  by_cases bare : '?' ∈ base
  · have last := free.resolve_left fun none => none bare
    cases parts : splitOnce '?' base with
    | none => exact absurd bare (splitOnce_none parts)
    | some found =>
      obtain ⟨front, back⟩ := found
      obtain ⟨shape, plain⟩ := splitOnce_some parts
      have joined : beforeFragment (jointOf base :: tail) = '&' :: beforeFragment tail := by
        rw [jointOf, if_pos last]
        rfl
      rw [query, query, beforeFragment_append whole, own, joined, parts, shape, List.append_assoc, List.cons_append,
        splitOnce_append plain, first]
      exact parameters_append back (beforeFragment tail)
  · have joined : beforeFragment (jointOf base :: tail) = '?' :: beforeFragment tail := by
      have last : base.getLast? ≠ some '?' := fun last => bare (List.mem_of_getLast? last)
      rw [jointOf, if_neg last]
      rfl
    rw [query, query, beforeFragment_append whole, own, joined, splitOnce_append bare, splitOnce_absent bare, first]
    rfl

/-- Otherwise the base's last parameter and the first field run into each other. -/
theorem parameters_closed {base : List Char} (whole : '#' ∉ base) (closed : ¬ OpenEnded base) (first : plainName name = true)
    (some : decode (blanked value) ≠ []) (clean : '&' ∉ value ∧ '#' ∉ value) (joint : Joint (beforeFragment more))
    (field : List UInt8) (rest : List (List UInt8 × List UInt8)) :
    parameters (query (base ++ jointOf base :: (name ++ '=' :: blanked value ++ more))) ≠
      parameters (query base) ++ (utf8 name, field) :: rest := by
  intro same
  rw [OpenEnded, not_or, not_not] at closed
  obtain ⟨asks, last⟩ := closed
  have own := beforeFragment_append whole []
  rw [List.append_nil, show beforeFragment [] = [] from rfl, List.append_nil] at own
  cases parts : splitOnce '?' base with
  | none => exact splitOnce_none parts asks
  | some found =>
    obtain ⟨front, back⟩ := found
    obtain ⟨shape, plain⟩ := splitOnce_some parts
    obtain ⟨lead, tail, piece, reads⟩ := parameters_last back
    have joined : beforeFragment (jointOf base :: (name ++ '=' :: blanked value ++ more)) =
        '?' :: (name ++ '=' :: blanked value) ++ beforeFragment more := by
      rw [jointOf, if_neg last]
      exact congrArg ('?' :: ·) (beforeFragment_append (field_solid first clean.2) more)
    have plainPiece : '&' ∉ tail ++ '?' :: (name ++ '=' :: blanked value) := by
      intro inside
      rcases List.mem_append.mp inside with inside | inside
      · exact piece inside
      · rcases List.mem_cons.mp inside with same | inside
        · cases same
        · exact field_plain first clean.1 inside
    have ownReads := reads []
    rw [List.append_nil, List.append_nil] at ownReads
    have bare : '=' ∉ name := fun inside => (plainName_mem first inside).2.2.1 rfl
    rw [query, query, beforeFragment_append whole, own, joined, parts, shape, List.append_assoc, List.cons_append,
      splitOnce_append plain] at same
    simp only [Option.map_some, Option.getD_some] at same
    rw [reads, ← List.append_assoc, parameters_joined plainPiece (by simp) joint, ownReads, List.append_assoc] at same
    have heads := List.append_cancel_left same
    by_cases nothing : tail = []
    · subst nothing
      have head := congrArg Prod.fst (List.cons.inj heads).1
      have asked : '=' ∉ '?' :: name := List.not_mem_cons_of_ne_of_not_mem (by decide) bare
      have value := parameter_value asked (blanked value)
      rw [List.cons_append] at value
      rw [List.nil_append, value, decode_char (by decide), decode_name first] at head
      have lengths := congrArg List.length head
      have size := utf8EncodeChar_pos '?'
      rw [List.length_append] at lengths
      dsimp only at lengths
      omega
    · rw [parameters_piece piece nothing] at heads
      exact parameter_grown (by decide) tail some bare (by decide) (List.cons.inj heads).1

theorem blanked_visible (visible : ' ' ∉ text) : blanked text = text := by
  induction text with
  | nil => rfl
  | cons c rest ih =>
    obtain ⟨apart, visible⟩ := List.ne_and_not_mem_of_not_mem_cons visible
    rw [blanked_char apart.symm, ih visible]

/-- Hexadecimal digits are verbatim. -/
theorem verbatim_hex (hex : ∀ c ∈ value, (hexDigit c).isSome = true) : Verbatim value ∧ ' ' ∉ value := by
  have absent {c : Char} (stop : hexDigit c = none) : c ∉ value := fun inside => by
    have digit := hex c inside
    rw [stop] at digit
    cases digit
  refine ⟨⟨absent (by decide), absent (by decide), ?_⟩, absent (by decide)⟩
  have solid := absent (c := '%') (by decide)
  clear hex absent
  induction value with
  | nil => rfl
  | cons c rest ih =>
    obtain ⟨apart, solid⟩ := List.ne_and_not_mem_of_not_mem_cons solid
    have plain : (c == '%') = false := beq_eq_false_iff_ne.mpr apart.symm
    rw [escaped, plain, ih solid]
    rfl

theorem fnOauthStart_url (started : fnOauthStart env site providerId (some redirect) = .ok (answer, after))
    (found : oauthProvider site providerId = some (id, provider, columns)) (base : columns.authUrl = some authUrl)
    (client : provider.oauthClientId = some clientId) (visible : ' ' ∉ env.newState.toList) :
    ∃ url, answer.getText? "redirect_url" = some url ∧
      url.toList = authUrl.toList ++ jointOf authUrl.toList :: ("response_type".toList ++ '=' :: blanked "code".toList ++
        queryFields (authorizationFields clientId env.newState redirect columns.scope).tail) := by
  unfold fnOauthStart at started
  rw [found] at started
  dsimp only at started
  rw [base, client] at started
  split at started
  · cases started
  dsimp only at started
  split at started
  · cases started
  obtain ⟨rfl, -⟩ := Prod.mk.inj (Except.ok.inj started)
  refine ⟨_, rfl, ?_⟩
  clear started found base client
  have state := blanked_visible visible
  have joint : (if authUrl.toList.getLast? = some '?' then "&" else "?").toList = [jointOf authUrl.toList] := by
    rw [jointOf]
    split <;> rfl
  have code : blanked ['c', 'o', 'd', 'e'] = ['c', 'o', 'd', 'e'] := rfl
  cases columns.scope with
  | none => simp [joint, percentBlanks_toList, authorizationFields, queryFields, state, code]
  | some scope => simp [joint, percentBlanks_toList, authorizationFields, queryFields, state, code]

/-- The authorization server reads in the URL what was meant when the base has no query
or one that is still open, and every value is verbatim. -/
theorem fnOauthStart_decodable_iff (started : fnOauthStart env site providerId (some redirect) = .ok (answer, after))
    (found : oauthProvider site providerId = some (id, provider, columns)) (base : columns.authUrl = some authUrl)
    (client : provider.oauthClientId = some clientId) (whole : '#' ∉ authUrl.toList)
    (hex : ∀ c ∈ env.newState.toList, (hexDigit c).isSome = true) :
    Decodable answer authUrl (authorizationFields clientId env.newState redirect columns.scope) ↔
      OpenEnded authUrl.toList ∧ Verbatim clientId.toList ∧ Verbatim redirect.toList ∧
        ∀ scope, columns.scope = some scope → Verbatim scope.toList := by
  obtain ⟨stateVerbatim, visible⟩ := verbatim_hex hex
  obtain ⟨url, named, shape⟩ := fnOauthStart_url started found base client visible
  have text : Decodable answer authUrl (authorizationFields clientId env.newState redirect columns.scope) ↔
      parameters (query url.toList) = parameters (query authUrl.toList) ++
        (authorizationFields clientId env.newState redirect columns.scope).map fun field => (utf8 field.1, utf8 field.2) := by
    constructor
    · intro ⟨other, same, reads⟩
      obtain rfl := Option.some.inj (named.symm.trans same)
      exact reads
    · intro reads
      exact ⟨url, named, reads⟩
  have plain : ∀ field ∈ authorizationFields clientId env.newState redirect columns.scope, plainName field.1 = true := by
    cases columns.scope <;> simp [authorizationFields] <;> decide
  rw [text, shape]
  by_cases free : OpenEnded authUrl.toList
  · rw [parameters_open whole free, List.append_cancel_left_eq]
    have code : Verbatim ['c', 'o', 'd', 'e'] := ⟨by decide, by decide, by decide⟩
    refine (parameters_queryFields plain).trans ?_
    cases columns.scope with
    | none => simp [authorizationFields, code, stateVerbatim, free]
    | some scope => simp [authorizationFields, code, stateVerbatim, free]
  · refine iff_of_false ?_ fun all => free all.1
    exact parameters_closed whole free (by decide) (by decide) ⟨by decide, by decide⟩ (queryFields_joint _).beforeFragment _ _

def loginProvider : ProviderRow :=
  ⟨"login", .oauth, "https://llm.example", true, false, .chat, none, false, 0, some "https://login.example/token",
    some "allgres"⟩

/-- The provider of logins with its authorization endpoint. -/
def authorizingSite (authUrl : String) : Site :=
  { Site.empty with
    db := { Db.empty with providers := Table.empty.insert loginProvider }
    oauthColumns := fun _ => ⟨some authUrl, none, false, some "openid email"⟩ }

/-- A server whose next state is this one. -/
def drawing : WebEnv := { WebEnv.bare with newState := "0c" }

/-- What the flow answers there. -/
def authorization (authUrl : String) : Except String (Json × Site) :=
  fnOauthStart drawing (authorizingSite authUrl) (some 0) (some "https://d.io/cb")

theorem fnOauthStart_decodable_iff_plain :
    ∃ answer after, authorization "https://id.io/auth" = .ok (answer, after) ∧
      (Decodable answer "https://id.io/auth"
        (authorizationFields "allgres" "0c" "https://d.io/cb" (some "openid email")) ↔
      OpenEnded "https://id.io/auth".toList ∧ Verbatim "allgres".toList ∧
        Verbatim "https://d.io/cb".toList ∧
        ∀ scope, some "openid email" = some scope → Verbatim scope.toList) := by
  have fragment : '#' ∉ "https://id.io/auth".toList := by simp
  have hex : ∀ c ∈ drawing.newState.toList, (hexDigit c).isSome = true :=
    List.all_eq_true.mp (by decide +kernel)
  obtain ⟨answer, after, started⟩ : ∃ answer after, authorization "https://id.io/auth" = .ok (answer, after) := ⟨_, _, rfl⟩
  have found : oauthProvider (authorizingSite "https://id.io/auth") (some 0) =
      some (0, loginProvider, ⟨some "https://id.io/auth", none, false, some "openid email"⟩) := rfl
  have readable := fnOauthStart_decodable_iff started found rfl rfl fragment hex
  exact ⟨answer, after, started, readable⟩

/-- A base with a query of its own, as `?p=1`, swallows the first field. -/
theorem not_fnOauthStart_decodable :
    ∃ answer after, authorization "https://id.io/auth?p=1" = .ok (answer, after) ∧
      ¬ Decodable answer "https://id.io/auth?p=1"
        (authorizationFields "allgres" "0c" "https://d.io/cb" (some "openid email")) := by
  refine ⟨_, _, rfl, fun ⟨url, named, reads⟩ => ?_⟩
  obtain rfl := Option.some.inj named
  revert reads
  decide +kernel

end Allgres
