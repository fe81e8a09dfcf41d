import Mathlib.Data.List.TakeDrop
import Allgres.Env

namespace Allgres

open Sql

private def schemeChar (c : Char) : Bool :=
  c.isAlphanum || c == '+' || c == '.' || c == '-'

/-- A match of `^[a-zA-Z][a-zA-Z0-9+.-]*://`: the scheme and what follows. -/
def splitScheme (url : List Char) : Option (List Char × List Char) :=
  match url.span schemeChar with
  | (first :: scheme, ':' :: '/' :: '/' :: rest) =>
    if first.isAlpha then some (first :: scheme, rest) else none
  | _ => none

private def beforeAuthorityEnd (c : Char) : Bool := c != '/' && c != '?' && c != '#'

theorem splitScheme_append {url scheme rest : List Char} (parts : splitScheme url = some (scheme, rest)) :
    ∃ front, url = front ++ rest ∧ ∀ other, splitScheme (front ++ other) = some (scheme, other) := by
  unfold splitScheme at parts
  rw [List.span_eq_takeWhile_dropWhile] at parts
  split at parts
  · rename_i first word other same
    split at parts
    · rename_i letter
      obtain ⟨rfl, rfl⟩ := Prod.mk.inj (Option.some.inj parts)
      obtain ⟨front, back⟩ := Prod.mk.inj same
      have whole : url = first :: word ++ ':' :: '/' :: '/' :: other := by
        rw [← front, ← back, List.takeWhile_append_dropWhile]
      have fits : ∀ c ∈ first :: word, schemeChar c = true := by
        rw [← front]
        exact fun c => List.mem_takeWhile_imp
      refine ⟨first :: word ++ [':', '/', '/'], by rw [whole]; simp, fun more => ?_⟩
      have colon : schemeChar ':' = false := by decide
      unfold splitScheme
      rw [List.span_eq_takeWhile_dropWhile, List.append_assoc, List.takeWhile_append_of_pos fits,
        List.dropWhile_append_of_pos fits]
      simp only [List.cons_append, List.nil_append, List.takeWhile_cons, List.dropWhile_cons, colon, Bool.false_eq_true,
        if_false, List.append_nil, if_pos letter]
    · cases parts
  · cases parts

/-- `host` or `host:port` without the port; more than one colon is left alone. -/
private def dropPort (authority : List Char) : List Char :=
  match authority with
  | '[' :: rest => rest.takeWhile (· != ']')
  | _ => if authority.count ':' = 1 then authority.takeWhile (· != ':') else authority

private def dropFinalDot (host : String) : List Char :=
  if host.toList.getLast? = some '.' then host.toList.dropLast else host.toList

def urlHost (pg : Pg) (url : Option String) : Option String :=
  match url with
  | none => none
  | some url =>
    if url.toList.any pg.spaceOrCntrl then none
    else match splitScheme url.toList with
      | none => none
      | some (_, rest) =>
        let authority := rest.takeWhile beforeAuthorityEnd
        if authority.isEmpty || authority.contains '@' then none
        else
          let host := dropFinalDot (btrim (String.ofList (dropPort authority)))
          nonEmpty (some (pg.lower (String.ofList host)))

/-- The host that an authority names. -/
private def authorityHost (pg : Pg) (authority : List Char) : Option String :=
  if authority.isEmpty || authority.contains '@' then none
  else nonEmpty (some (pg.lower (String.ofList (dropFinalDot (btrim (String.ofList (dropPort authority)))))))

private theorem urlHost_eq {pg : Pg} {url : String} {scheme rest : List Char}
    (solid : url.toList.any pg.spaceOrCntrl = false) (parts : splitScheme url.toList = some (scheme, rest)) :
    urlHost pg (some url) = authorityHost pg (rest.takeWhile beforeAuthorityEnd) := by
  simp only [urlHost, solid, Bool.false_eq_true, if_false, parts]
  rfl

/-- Trailing slashes and a path do not reach into an authority. -/
private theorem authority_join {authority more : List Char} (some : authority ≠ [])
    (within : ∀ c ∈ authority, beforeAuthorityEnd c = true) (after : more.takeWhile beforeAuthorityEnd = [])
    (path : List Char) :
    ∃ kept, (authority ++ more).rdropWhile (· == '/') = authority ++ kept ∧
      (authority ++ kept ++ '/' :: path).takeWhile beforeAuthorityEnd = authority := by
  refine ⟨more.rdropWhile (· == '/'), ?_, ?_⟩
  · rcases authority.eq_nil_or_concat with none | ⟨front, last, rfl⟩
    · exact absurd none some
    · have fits := within last (by simp)
      simp only [beforeAuthorityEnd, Bool.and_eq_true, bne_iff_ne] at fits
      rw [List.concat_eq_append]
      exact rdropWhile_append_kept (by simpa using fits.1.1) front more
  · rw [List.append_assoc, List.takeWhile_append_of_pos within]
    have stops : (more.rdropWhile (· == '/') ++ '/' :: path).takeWhile beforeAuthorityEnd = [] := by
      rcases kept : more.rdropWhile (· == '/') with _ | ⟨c, rest⟩
      · have slash : beforeAuthorityEnd '/' = false := by decide
        rw [List.nil_append, List.takeWhile_cons, slash, if_neg Bool.false_ne_true]
      · obtain ⟨tail, whole⟩ := List.rdropWhile_prefix (· == '/') (l := more)
        rw [kept] at whole
        rw [← whole, List.cons_append, List.takeWhile_cons] at after
        rw [List.cons_append, List.takeWhile_cons]
        split at after
        · cases after
        · rename_i ends
          rw [if_neg ends]
    rw [stops, List.append_nil]

def isHex (c : Char) : Bool := c.isDigit || ('a' ≤ c && c ≤ 'f')

def octet (label : List Char) : Bool :=
  1 ≤ label.length && label.length ≤ 3 && label.all Char.isDigit

/-- `^[0-9]{1,3}(\.[0-9]{1,3}){3}$`. -/
def dottedQuad (host : List Char) : Bool :=
  let labels := host.splitOn '.'
  labels.length == 4 && labels.all octet

/-- The dotted quad of `::ffff:a.b.c.d` and of `::a.b.c.d`. -/
def mappedV4 (host : List Char) : Option (List Char) :=
  match host with
  | ':' :: ':' :: 'f' :: 'f' :: 'f' :: 'f' :: ':' :: quad => if dottedQuad quad then some quad else none
  | ':' :: ':' :: quad => if dottedQuad quad then some quad else none
  | _ => none

def labelIn (low high : Nat) (label : List Char) : Bool :=
  (List.range' low (high + 1 - low)).any fun value => (toString value).toList == label

def blockedV4 (host : List Char) : Bool :=
  match host.splitOn '.' with
  | [a, b, c, _] =>
    [['0'], ['1', '0'], ['1', '2', '7']].contains a ||
    (a == ['1', '6', '9'] && b == ['2', '5', '4']) ||
    (a == ['1', '7', '2'] && labelIn 16 31 b) ||
    (a == ['1', '9', '2'] && b == ['1', '6', '8']) ||
    (a == ['1', '9', '2'] && b == ['0'] && (c == ['0'] || c == ['2'])) ||
    (a == ['1', '9', '8'] && labelIn 18 19 b) ||
    (a == ['1', '0', '0'] && labelIn 64 127 b) ||
    labelIn 224 259 a
  | _ => false

/-- `^0[0-7]*(\.|$)`. -/
def octalStart : List Char → Bool
  | '0' :: rest =>
    match rest.dropWhile (fun c => '0' ≤ c && c ≤ '7') with
    | [] => true
    | c :: _ => c == '.'
  | _ => false

def uniqueOrLinkLocal : List Char → Bool
  | 'f' :: b :: c :: d :: ':' :: _ =>
    ((b == 'c' || b == 'd') && isHex c && isHex d) ||
    (b == 'e' && (c == '8' || c == '9' || c == 'a' || c == 'b') && isHex d)
  | _ => false

def blockedLabels : List String :=
  ["local", "localhost", "internal", "intranet", "corp", "home", "lan"]

def blockedNames : List String :=
  ["localhost", "localhost.localdomain", "ip6-localhost", "ip6-loopback", "::", "::1"]

def blockedName (host : List Char) : Bool :=
  host.all Char.isDigit ||
  (match host with
    | '0' :: 'x' :: rest => !rest.isEmpty && rest.all isHex
    | _ => false) ||
  octalStart host ||
  blockedNames.contains (String.ofList host) ||
  ((host.splitOn '.').getLast?.any fun label => blockedLabels.contains (String.ofList label)) ||
  uniqueOrLinkLocal host ||
  (dottedQuad host && blockedV4 host)

def isBlockedHost (pg : Pg) (host : Option String) : Bool :=
  let lowered := (pg.lower (host.getD "")).toList
  if lowered.isEmpty then true
  else blockedName ((mappedV4 lowered).getD lowered)

/-- The reason why a URL may not be fetched. -/
def checkOutboundUrl (pg : Pg) (url : Option String) (allowPrivate : Bool) : Option String :=
  match url with
  | none => some "missing_url"
  | some text =>
    if btrim text = "" then some "missing_url"
    else if text.toList.any pg.spaceOrCntrl then some "url_has_control_characters"
    else match splitScheme text.toList with
      | none => some "url_missing_scheme"
      | some (scheme, _) =>
        let scheme := pg.lower (String.ofList scheme)
        if scheme = "" then some "url_missing_scheme"
        else if scheme ≠ "http" ∧ scheme ≠ "https" then some "scheme_not_allowed"
        else if scheme = "http" ∧ !allowPrivate then some "plaintext_http_not_allowed"
        else match urlHost pg url with
          | none => some "url_host_unparseable"
          | some host => if isBlockedHost pg (some host) && !allowPrivate then some "host_blocked" else none

/-- What is known of a URL that may be fetched. -/
private theorem checked_url {pg : Pg} {url : String} {allow : Bool}
    (accepted : checkOutboundUrl pg (some url) allow = none) :
    url.toList.any pg.spaceOrCntrl = false ∧
      ∃ scheme rest, splitScheme url.toList = some (scheme, rest) ∧ (urlHost pg (some url)).isSome := by
  simp only [checkOutboundUrl] at accepted
  split at accepted
  · cases accepted
  · split at accepted
    · cases accepted
    · rename_i solid
      split at accepted
      · cases accepted
      · rename_i scheme rest parts
        split_ifs at accepted
        split at accepted
        · cases accepted
        · rename_i host known
          exact ⟨by simpa using solid, scheme, rest, parts, by rw [known]; rfl⟩

/-- A path below an accepted base URL leads to the host of the base URL. -/
theorem urlHost_join {pg : Pg} {base path : String} {allow allowed : Bool}
    (accepted : checkOutboundUrl pg (some base) allow = none)
    (joined : checkOutboundUrl pg (some (trimRight (· == '/') base ++ "/" ++ path)) allowed = none) :
    urlHost pg (some (trimRight (· == '/') base ++ "/" ++ path)) = urlHost pg (some base) := by
  obtain ⟨solid, scheme, rest, parts, known⟩ := checked_url accepted
  obtain ⟨clean, -⟩ := checked_url joined
  rw [urlHost_eq solid parts] at known ⊢
  obtain ⟨front, whole, stable⟩ := splitScheme_append parts
  have named : rest.takeWhile beforeAuthorityEnd ≠ [] := by
    intro none
    rw [none] at known
    cases known
  have within : ∀ c ∈ rest.takeWhile beforeAuthorityEnd, beforeAuthorityEnd c = true :=
    fun c => List.mem_takeWhile_imp
  have after : (rest.dropWhile beforeAuthorityEnd).takeWhile beforeAuthorityEnd = [] := by
    rcases ends : rest.dropWhile beforeAuthorityEnd with _ | ⟨c, more⟩
    · rfl
    · have stops := List.head_dropWhile_not beforeAuthorityEnd (l := rest) (by rw [ends]; simp)
      simp only [ends, List.head_cons] at stops
      rw [List.takeWhile_cons, stops, if_neg Bool.false_ne_true]
  obtain ⟨kept, trimmed, authority⟩ := authority_join named within after path.toList
  rw [List.takeWhile_append_dropWhile] at trimmed
  have cut : (trimRight (· == '/') base).toList = front ++ (rest.takeWhile beforeAuthorityEnd ++ kept) := by
    rw [trimRight, String.toList_ofList, whole, ← trimmed]
    obtain ⟨tail, split⟩ := List.rdropWhile_prefix (· == '/') (l := rest)
    have some : rest.rdropWhile (· == '/') ≠ [] := by
      rw [trimmed]
      exact List.append_ne_nil_of_left_ne_nil named kept
    simp only [List.rdropWhile, List.reverse_append, List.dropWhile_append] at some ⊢
    rw [if_neg (by simpa using some), List.reverse_append, List.reverse_reverse]
  have url : (trimRight (· == '/') base ++ "/" ++ path).toList =
      front ++ (rest.takeWhile beforeAuthorityEnd ++ kept ++ '/' :: path.toList) := by
    rw [String.toList_append, String.toList_append, cut]
    simp
  have again : splitScheme (trimRight (· == '/') base ++ "/" ++ path).toList =
      some (scheme, rest.takeWhile beforeAuthorityEnd ++ kept ++ '/' :: path.toList) := by
    rw [url]
    exact stable _
  rw [urlHost_eq clean again, authority]

example : checkOutboundUrl .bare (some "https://a.b/x") false = none := by decide +kernel

example : checkOutboundUrl .bare (some "https://[::ffff:10.0.0.1]/") false = some "host_blocked" := by
  decide +kernel

end Allgres
