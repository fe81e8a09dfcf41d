import Mathlib.Data.List.MinMax
import Allgres.Dashboard.Chat

namespace Allgres

open Relational Jsonb Sql

/-! ### The mentions of a text -/

/-- What stands behind each `@` of a text. -/
def behindAts : List Char → List (List Char)
  | [] => []
  | c :: rest => if c == '@' then rest :: behindAts rest else behindAts rest

/-- The run of name characters at the front. -/
def nameRun (rest : List Char) : String := String.ofList (rest.takeWhile nameChar)

def nameRuns (places : List (List Char)) : List String := (places.map nameRun).filter (· ≠ "")

theorem mentionsIn_stop (letters : List Char) :
    mentionsIn (some letters) [] = if letters = [] then [] else [String.ofList letters.reverse] := by
  cases letters <;> rfl

/-- The run under way is carried to its end, and none of its characters opens another one. -/
theorem mentionsIn_some (letters rest : List Char) :
    mentionsIn (some letters) rest =
      mentionsIn (some ((rest.takeWhile nameChar).reverse ++ letters)) [] ++ mentionsIn none rest := by
  induction rest generalizing letters with
  | nil => simp [mentionsIn]
  | cons c rest ih =>
    by_cases inside : nameChar c = true
    · have plain : (c == '@') = false := by
        rw [beq_eq_false_iff_ne]
        rintro rfl
        exact absurd inside (by decide)
      have carried : mentionsIn (some letters) (c :: rest) = mentionsIn (some (c :: letters)) rest := by
        simp [mentionsIn, inside]
      have passed : mentionsIn none (c :: rest) = mentionsIn none rest := by
        simp [mentionsIn, plain]
      rw [carried, passed, ih, List.takeWhile_cons_of_pos inside]
      simp
    · rw [List.takeWhile_cons_of_neg inside]
      simp [mentionsIn, inside]

theorem mentionsIn_none (text : List Char) : mentionsIn none text = nameRuns (behindAts text) := by
  induction text with
  | nil => rfl
  | cons c rest ih =>
    by_cases sign : (c == '@') = true
    · have opened : mentionsIn none (c :: rest) = mentionsIn (some []) rest := by
        simp [mentionsIn, sign]
      have behind : behindAts (c :: rest) = rest :: behindAts rest := if_pos sign
      rw [opened, behind, mentionsIn_some, mentionsIn_stop, ih]
      by_cases bare : rest.takeWhile nameChar = []
      · simp [nameRuns, nameRun, bare]
      · simp [nameRuns, nameRun, bare, String.ofList_eq_empty_iff]
    · have passed : mentionsIn none (c :: rest) = mentionsIn none rest := by
        simp [mentionsIn, sign]
      have behind : behindAts (c :: rest) = behindAts rest := if_neg sign
      rw [passed, behind, ih]

theorem all_nameChar_of_mem {places : List (List Char)} {name : String} (member : name ∈ nameRuns places) :
    name.toList.all nameChar = true := by
  obtain ⟨rest, -, rfl⟩ := List.mem_map.mp (List.mem_filter.mp member).1
  rw [nameRun, String.toList_ofList]
  exact List.all_takeWhile

/-! ### Mentions by full name

`ends` tells which characters end a mention besides the end of the text; a letter or digit
of ASCII, `_` and `-` never do. -/

section FullNames

variable {ends : Char → Bool} {names : List String}

/-- Behind an `@`, the text mentions this agent: it spells the whole name out, and there the mention ends. -/
def mentionsAgent (ends : Char → Bool) (rest : List Char) (name : String) : Bool :=
  name ≠ "" && name.toList.isPrefixOf rest && (rest.drop name.length).head?.all fun c => ends c && !nameChar c

/-- Of the names that are spelled out behind an `@`, the longest is the one that is mentioned. -/
def mentionedBehind (ends : Char → Bool) (names : List String) (rest : List Char) : Option String :=
  (names.filter (mentionsAgent ends rest)).argmax String.length

/-- Who is mentioned in a text, each once, in the order of first appearance. -/
def mentionedIn (ends : Char → Bool) (names : List String) (text : List Char) : List String :=
  ((behindAts text).filterMap (mentionedBehind ends names)).eraseDups

/-- Where the run of name characters stops, a mention ends. -/
def endedRun (ends : Char → Bool) (rest : List Char) : Bool := (rest.dropWhile nameChar).head?.all ends

structure PlainMentions (ends : Char → Bool) (names : List String) (text : List Char) : Prop where
  /-- No agent with another character in its name is mentioned. -/
  plain : ∀ rest ∈ behindAts text, ∀ name ∈ names, mentionsAgent ends rest name = true →
    name.toList.all nameChar = true
  /-- The runs that stop where no mention ends change nothing about the first appearances. -/
  ended : (nameRuns ((behindAts text).filter (endedRun ends))).eraseDups = (nameRuns (behindAts text)).eraseDups

theorem mentionsAgent_iff {rest : List Char} {name : String} :
    mentionsAgent ends rest name = true ↔
      name ≠ "" ∧ ∃ tail, rest = name.toList ++ tail ∧ ∀ c, tail.head? = some c → ends c = true ∧ nameChar c = false := by
  have length : name.length = name.toList.length := String.length_toList.symm
  constructor
  · intro mentioned
    simp only [mentionsAgent, Bool.and_eq_true, decide_eq_true_eq, List.isPrefixOf_iff_prefix] at mentioned
    obtain ⟨⟨named, tail, rfl⟩, stops⟩ := mentioned
    refine ⟨named, tail, rfl, fun c head => ?_⟩
    rw [length, List.drop_left, head] at stops
    simpa using stops
  · rintro ⟨named, tail, rfl, stops⟩
    simp only [mentionsAgent, Bool.and_eq_true, decide_eq_true_eq, List.isPrefixOf_iff_prefix]
    refine ⟨⟨named, tail, rfl⟩, ?_⟩
    rw [length, List.drop_left]
    cases found : tail.head? with
    | none => rfl
    | some c => simpa using stops c found

theorem head?_dropWhile_nameChar {rest : List Char} {c : Char} (head : (rest.dropWhile nameChar).head? = some c) :
    nameChar c = false := by
  have stopped := List.head?_dropWhile_not nameChar rest
  rwa [head] at stopped

/-- The run itself is a mention exactly when it is not empty and a mention ends behind it. -/
theorem mentionsAgent_nameRun {rest : List Char} :
    mentionsAgent ends rest (nameRun rest) = true ↔ nameRun rest ≠ "" ∧ endedRun ends rest = true := by
  have split : rest = (nameRun rest).toList ++ rest.dropWhile nameChar := by
    rw [nameRun, String.toList_ofList, List.takeWhile_append_dropWhile]
  rw [mentionsAgent_iff]
  refine and_congr_right fun _ => ?_
  constructor
  · rintro ⟨tail, same, stops⟩
    have behind : tail = rest.dropWhile nameChar := List.append_cancel_left (same.symm.trans split)
    subst behind
    rw [endedRun]
    cases found : (rest.dropWhile nameChar).head? with
    | none => rfl
    | some c => exact (stops c found).1
  · intro ended
    refine ⟨_, split, fun c head => ⟨?_, head?_dropWhile_nameChar head⟩⟩
    rw [endedRun, head] at ended
    exact ended

/-- A name without other characters can only be mentioned by the run. -/
theorem eq_nameRun {rest : List Char} {name : String} (mentioned : mentionsAgent ends rest name = true)
    (plain : name.toList.all nameChar = true) : name = nameRun rest := by
  obtain ⟨-, tail, rfl, stops⟩ := mentionsAgent_iff.mp mentioned
  have stopped : tail.takeWhile nameChar = [] := by
    cases tail with
    | nil => rfl
    | cons c rest => exact List.takeWhile_cons_of_neg (by simp [(stops c rfl).2])
  rw [nameRun, List.takeWhile_append_of_pos (List.all_eq_true.mp plain), stopped, List.append_nil, String.ofList_toList]

theorem mentionedBehind_plain {rest : List Char} (known : nameRun rest ≠ "" → nameRun rest ∈ names)
    (plain : ∀ name ∈ names, mentionsAgent ends rest name = true → name.toList.all nameChar = true) :
    mentionedBehind ends names rest =
      if mentionsAgent ends rest (nameRun rest) = true then some (nameRun rest) else none := by
  rw [mentionedBehind]
  have only : ∀ name ∈ names.filter (mentionsAgent ends rest), name = nameRun rest := by
    intro name member
    obtain ⟨listed, mentioned⟩ := List.mem_filter.mp member
    exact eq_nameRun mentioned (plain name listed mentioned)
  cases longest : (names.filter (mentionsAgent ends rest)).argmax String.length with
  | none =>
    have nobody := List.argmax_eq_none.mp longest
    rw [if_neg]
    intro mentioned
    have listed : nameRun rest ∈ names.filter (mentionsAgent ends rest) :=
      List.mem_filter.mpr ⟨known (mentionsAgent_nameRun.mp mentioned).1, mentioned⟩
    rw [nobody] at listed
    cases listed
  | some name =>
    have member := List.argmax_mem (Option.mem_def.mpr longest)
    obtain rfl := only name member
    rw [if_pos (List.mem_filter.mp member).2]

theorem filterMap_mentionedBehind {places : List (List Char)} (known : ∀ name ∈ nameRuns places, name ∈ names)
    (plain : ∀ rest ∈ places, ∀ name ∈ names, mentionsAgent ends rest name = true → name.toList.all nameChar = true) :
    places.filterMap (mentionedBehind ends names) = nameRuns (places.filter (endedRun ends)) := by
  induction places with
  | nil => rfl
  | cons rest places ih =>
    have later := ih (fun name member => known name (by
      have tail : nameRuns places ⊆ nameRuns (rest :: places) := by
        intro name member
        simp only [nameRuns, List.map_cons, List.mem_filter, List.mem_cons] at member ⊢
        exact ⟨.inr member.1, member.2⟩
      exact tail member)) fun place member => plain place (List.mem_cons_of_mem _ member)
    have here := mentionedBehind_plain (fun named => known _ (List.mem_filter.mpr ⟨by simp, by simpa using named⟩))
      (plain rest List.mem_cons_self)
    simp only [mentionsAgent_nameRun] at here
    by_cases ended : endedRun ends rest = true
    · by_cases named : nameRun rest = ""
      · simp [here, later, ended, named, nameRuns]
      · simp [here, later, ended, named, nameRuns]
    · simp [here, later, ended, nameRuns]

/-- The longest name that is spelled out has every shorter one at its front. -/
theorem mentionedBehind_covers {rest : List Char} {name : String} (listed : name ∈ names)
    (mentioned : mentionsAgent ends rest name = true) :
    ∃ longest, mentionedBehind ends names rest = some longest ∧ name.toList <+: longest.toList := by
  have member : name ∈ names.filter (mentionsAgent ends rest) := List.mem_filter.mpr ⟨listed, mentioned⟩
  cases found : mentionedBehind ends names rest with
  | none =>
    rw [mentionedBehind, List.argmax_eq_none] at found
    rw [found] at member
    cases member
  | some longest =>
    have chosen : longest ∈ (names.filter (mentionsAgent ends rest)).argmax String.length := found
    have length : name.length ≤ longest.length := List.le_of_mem_argmax member chosen
    obtain ⟨-, tail, first, -⟩ := mentionsAgent_iff.mp mentioned
    obtain ⟨-, tail', second, -⟩ := mentionsAgent_iff.mp (List.mem_filter.mp (List.argmax_mem chosen)).2
    refine ⟨longest, rfl, List.prefix_of_prefix_length_le ⟨tail, first.symm⟩ ⟨tail', second.symm⟩ ?_⟩
    rwa [String.length_toList, String.length_toList]

theorem mentionsIn_eq_mentionedIn_iff {text : List Char} (known : ∀ name ∈ mentionsIn none text, name ∈ names) :
    (mentionsIn none text).eraseDups = mentionedIn ends names text ↔ PlainMentions ends names text := by
  rw [mentionsIn_none] at known ⊢
  constructor
  · intro same
    have plain : ∀ rest ∈ behindAts text, ∀ name ∈ names, mentionsAgent ends rest name = true →
        name.toList.all nameChar = true := by
      intro rest place name listed mentioned
      obtain ⟨longest, chosen, covers⟩ := mentionedBehind_covers listed mentioned
      have member : longest ∈ mentionedIn ends names text :=
        List.mem_eraseDups.mpr (List.mem_filterMap.mpr ⟨rest, place, chosen⟩)
      rw [← same, List.mem_eraseDups] at member
      have letters := List.all_eq_true.mp (all_nameChar_of_mem member)
      exact List.all_eq_true.mpr fun c inside => letters c (covers.subset inside)
    refine ⟨plain, ?_⟩
    rw [same, mentionedIn, filterMap_mentionedBehind known plain]
  · intro condition
    rw [mentionedIn, filterMap_mentionedBehind known condition.plain, condition.ended]

end FullNames

/-! ### Where a post goes -/

section Posts

variable {env : WebEnv} {token : Option String} {text : String}

def Db.agentNames (db : Db) : List String := db.agents.rows.map fun row => row.2.name

/-- The name is that of the agent. -/
def Named (db : Db) (agentId : Nat) (name : String) : Prop :=
  ∃ agent, db.agents.get? agentId = some agent ∧ agent.name = name

/-- The message is sent to these agents, once to each of them and in this order. -/
inductive SentTo (env : WebEnv) (token : Option String) (text : String) :
    Site → List Nat → List Nat → Site → Prop
  | nobody (site : Site) : SentTo env token text site [] [] site
  | next {site later : Site} {access : Access} {sent : Sent} {agentId : Nat} {agentIds sessionIds : List Nat} :
      requireAgentAccess env site token (some agentId) = .ok access →
      fnChatSend env access.site token (some agentId) (some text) = .ok sent →
      SentTo env token text sent.site agentIds sessionIds later →
      SentTo env token text site (agentId :: agentIds) (sent.sessionId :: sessionIds) later

/-- The row of the channel, and the reply, when the message was sent to these agents. -/
def posted (env : WebEnv) (userId : Nat) (text : String) (agentIds sessionIds : List Nat) (site : Site) :
    Json × Site :=
  (.build [("ok", .bool true), ("message_id", idJson site.messages.next),
      ("mentioned_agent_id", optIdJson agentIds.head?), ("session_id", optIdJson sessionIds.head?),
      ("mentioned_agent_ids", .arr (agentIds.map idJson))],
    { site with
      messages := site.messages.insert ⟨userId, text, agentIds.head?, sessionIds.head?,
        if agentIds.isEmpty then none else some agentIds, env.now⟩ })

/-- The post did nothing but send the message to these agents and put it on the channel. -/
def PostedTo (env : WebEnv) (site : Site) (token : Option String) (text : String) (agentIds : List Nat)
    (answer : Json × Site) : Prop :=
  ∃ userId user sessionIds later, (sessionUser env site token).1 = some (userId, user) ∧
    SentTo env token text (sessionUser env site token).2 agentIds sessionIds later ∧
    answer = posted env userId text agentIds sessionIds later

/-- The message has reached the agents that the text mentions, in the order of first appearance, and no other. -/
def ReachesMentioned (ends : Char → Bool) (env : WebEnv) (site : Site) (token : Option String) (text : String)
    (answer : Json × Site) : Prop :=
  ∃ agentIds, List.Forall₂ (Named site.db) agentIds (mentionedIn ends site.db.agentNames text.toList) ∧
    PostedTo env site token text agentIds answer

theorem PostedTo.unique {site : Site} {agentIds agentIds' : List Nat} {answer : Json × Site}
    (first : PostedTo env site token text agentIds answer) (second : PostedTo env site token text agentIds' answer) :
    agentIds = agentIds' := by
  obtain ⟨userId, user, sessionIds, later, -, -, rfl⟩ := first
  obtain ⟨userId', user', sessionIds', later', -, -, same⟩ := second
  have rows : (posted env userId text agentIds sessionIds later).2.messages.rows =
      (posted env userId' text agentIds' sessionIds' later').2.messages.rows := by
    rw [same]
  have last := (List.append_inj' rows rfl).2
  simp only [List.cons.injEq, Prod.mk.injEq, ChannelMessageRow.mk.injEq] at last
  have named := last.1.2.2.2.2.2.1
  cases agentIds with
  | nil =>
    cases agentIds' with
    | nil => rfl
    | cons agentId rest => cases named
  | cons agentId rest =>
    cases agentIds' with
    | nil => cases named
    | cons agentId' rest' => exact Option.some.inj named

theorem named_rightUnique (db : Db) : Relator.RightUnique (Named db) := by
  intro agentId name name' first second
  obtain ⟨agent, found, rfl⟩ := first
  obtain ⟨agent', found', rfl⟩ := second
  rw [Option.some.inj (found.symm.trans found')]

theorem agentNames_of_named {db : Db} {agentIds : List Nat} {names : List String}
    (named : List.Forall₂ (Named db) agentIds names) : ∀ name ∈ names, name ∈ db.agentNames := by
  induction named with
  | nil => simp
  | cons first _ ih =>
    obtain ⟨agent, found, rfl⟩ := first
    rw [List.forall_mem_cons]
    exact ⟨List.mem_map.mpr ⟨_, Table.mem_rows_iff.mpr found, rfl⟩, ih⟩

theorem named_agentNamed {db : Db} {name : String} {row : Nat × AgentRow} (found : db.agentNamed name = some row) :
    Named db row.1 name := by
  rw [Db.agentNamed, Table.find?] at found
  refine ⟨row.2, Table.mem_rows_iff.mp (List.mem_of_find?_eq_some found), ?_⟩
  simpa using List.find?_some found

/-! #### Sending leaves the agents as they are -/

theorem agents_converse {site : Site} {agentId : Nat} {projectId sessionId : Option Nat} {message : String}
    {created : Created} (opened : converse env site agentId projectId message sessionId = .ok created) :
    created.db.agents = site.db.agents := by
  cases sessionId with
  | none =>
    simp only [converse, fnCreateSession] at opened
    split at opened
    · cases opened
    · split at opened
      · cases opened
      · split at opened
        · cases opened
        · obtain rfl := Except.ok.inj opened
          rfl
  | some sessionId =>
    simp only [converse, fnContinueSession] at opened
    split at opened
    · cases opened
    · split at opened
      · cases opened
      · split at opened
        · cases opened
        · split at opened
          · cases opened
          · obtain rfl := Except.ok.inj opened
            rfl

theorem agents_fnChatSend {site : Site} {agentId : Option Nat} {message : Option String} {sent : Sent}
    (done : fnChatSend env site token agentId message = .ok sent) : sent.site.db.agents = site.db.agents := by
  unfold fnChatSend at done
  split at done
  · cases done
  · rename_i userId agentId access allowed
    have seen : access.db = site.db := requireAgentAccess_db allowed
    dsimp only at done
    split at done
    · cases done
    · split at done
      · cases done
      · rename_i created opened
        obtain rfl := Except.ok.inj done
        rw [← seen]
        exact agents_converse opened

/-! #### The loop over the mentions -/

theorem deliver_ok {delivered next : Delivery} {name : String}
    (done : deliver env token text delivered name = .ok next) :
    ∃ agentId access sent, Named delivered.site.db agentId name ∧
      requireAgentAccess env delivered.site token (some agentId) = .ok access ∧
      fnChatSend env access.site token (some agentId) (some text) = .ok sent ∧
      next = ⟨delivered.agentIds ++ [agentId], delivered.sessionIds ++ [sent.sessionId], sent.site⟩ := by
  unfold deliver at done
  split at done
  · cases done
  · rename_i agentId agent found
    split at done
    · cases done
    · rename_i access allowed
      split at done
      · cases done
      · rename_i sent opened
        exact ⟨agentId, access, sent, named_agentNamed found, allowed, opened, (Except.ok.inj done).symm⟩

theorem sentTo_deliver {names : List String} {delivered last : Delivery}
    (done : names.foldlM (deliver env token text) delivered = .ok last) :
    ∃ agentIds sessionIds, List.Forall₂ (Named delivered.site.db) agentIds names ∧
      SentTo env token text delivered.site agentIds sessionIds last.site ∧
      last = ⟨delivered.agentIds ++ agentIds, delivered.sessionIds ++ sessionIds, last.site⟩ := by
  induction names generalizing delivered with
  | nil =>
    obtain rfl := Except.ok.inj done
    exact ⟨[], [], .nil, .nobody _, by simp⟩
  | cons name names ih =>
    rw [List.foldlM_cons] at done
    cases passed : deliver env token text delivered name with
    | error message =>
      rw [passed] at done
      cases done
    | ok next =>
      rw [passed] at done
      obtain ⟨agentId, access, sent, named, allowed, opened, rfl⟩ := deliver_ok passed
      obtain ⟨agentIds, sessionIds, rest, later, whole⟩ := ih done
      have kept : sent.site.db.agents = delivered.site.db.agents := by
        rw [agents_fnChatSend opened, requireAgentAccess_db allowed]
      have same : Named sent.site.db = Named delivered.site.db := by
        funext agentId name
        rw [Named, Named, kept]
      refine ⟨agentId :: agentIds, sent.sessionId :: sessionIds, .cons named (same ▸ rest), ?_, ?_⟩
      · exact .next allowed opened later
      · rw [whole]
        simp

theorem fnMessengerPost_ok {site : Site} {said : Option String} {answer : Json × Site}
    (done : fnMessengerPost env site token said = .ok answer) :
    ∃ agentIds, List.Forall₂ (Named site.db) agentIds (mentionsIn none (btrim (said.getD "")).toList).eraseDups ∧
      PostedTo env site token (btrim (said.getD "")) agentIds answer := by
  have seen := sessionUser_db env site token
  unfold fnMessengerPost at done
  split at done
  · cases done
  · rename_i userId user marked asked
    rw [asked] at seen
    dsimp only at done seen
    split at done
    · cases done
    · split at done
      · cases done
      · rename_i delivered passed
        obtain ⟨agentIds, sessionIds, named, sent, whole⟩ := sentTo_deliver passed
        obtain rfl := Except.ok.inj done
        refine ⟨agentIds, seen ▸ named, userId, user, sessionIds, delivered.site, by rw [asked], ?_, ?_⟩
        · rw [asked]
          exact sent
        · rw [whole]
          simp [posted]

end Posts

theorem messengerPost_reaches_iff (ends : Char → Bool) {env : WebEnv} {site : Site} {token text : Option String}
    {answer : Json × Site} (done : fnMessengerPost env site token text = .ok answer) :
    ReachesMentioned ends env site token (btrim (text.getD "")) answer ↔
      PlainMentions ends site.db.agentNames (btrim (text.getD "")).toList := by
  obtain ⟨agentIds, named, whole⟩ := fnMessengerPost_ok done
  have known : ∀ name ∈ mentionsIn none (btrim (text.getD "")).toList, name ∈ site.db.agentNames :=
    fun name member => agentNames_of_named named name (List.mem_eraseDups.mpr member)
  rw [← mentionsIn_eq_mentionedIn_iff known]
  constructor
  · rintro ⟨reached, mentioned, posted⟩
    obtain rfl := whole.unique posted
    exact (named_rightUnique site.db).forall₂ named mentioned
  · intro same
    exact ⟨agentIds, same ▸ named, whole⟩

/-- Blanks and the usual punctuation. -/
def blankOrPunctuation (c : Char) : Bool := c.isWhitespace || ".,;:!?()[]'".toList.contains c

/-- An administrator is logged in, and there are two agents whose names begin alike. -/
def releasing : Site :=
  { Site.empty with
    db := { Db.empty with
      agents := (Table.empty.insert ⟨"deploy", true, false, none, .adminApproval, .emptyObj⟩).insert
        ⟨"deploy.prod", true, false, none, .adminApproval, .emptyObj⟩ }
    users := Table.empty.insert ⟨"admin", "hash", .admin, true, 0⟩
    webSessions := [⟨"token", 0, 100, 0⟩] }

theorem messengerPost_reaches_iff_deploy :
    ∃ answer, fnMessengerPost .bare releasing (some "token") (some "@deploy, go") = .ok answer ∧
      ReachesMentioned blankOrPunctuation .bare releasing (some "token") "@deploy, go" answer := by
  have condition : PlainMentions blankOrPunctuation releasing.db.agentNames "@deploy, go".toList :=
    ⟨by decide +kernel, by decide +kernel⟩
  cases done : fnMessengerPost .bare releasing (some "token") (some "@deploy, go") with
  | error message =>
    have sent : (fnMessengerPost .bare releasing (some "token") (some "@deploy, go")).isOk = true := by decide +kernel
    rw [done] at sent
    cases sent
  | ok answer => exact ⟨answer, rfl, (messengerPost_reaches_iff blankOrPunctuation done).mpr condition⟩

/-- The first agent is sent the message that mentions the second. -/
theorem not_messengerPost_reaches :
    ∃ answer, fnMessengerPost .bare releasing (some "token") (some "@deploy.prod go") = .ok answer ∧
      mentionedIn blankOrPunctuation releasing.db.agentNames "@deploy.prod go".toList = ["deploy.prod"] ∧
      PostedTo .bare releasing (some "token") "@deploy.prod go" [0] answer ∧ Named releasing.db 0 "deploy" ∧
      ¬ ReachesMentioned blankOrPunctuation .bare releasing (some "token") "@deploy.prod go" answer := by
  have mentioned : mentionedIn blankOrPunctuation releasing.db.agentNames "@deploy.prod go".toList =
      ["deploy.prod"] := by decide +kernel
  have first : Named releasing.db 0 "deploy" := ⟨_, rfl, rfl⟩
  cases done : fnMessengerPost .bare releasing (some "token") (some "@deploy.prod go") with
  | error message =>
    have sent : (fnMessengerPost .bare releasing (some "token") (some "@deploy.prod go")).isOk = true := by
      decide +kernel
    rw [done] at sent
    cases sent
  | ok answer =>
    obtain ⟨agentIds, named, whole⟩ := fnMessengerPost_ok done
    have run : (mentionsIn none (btrim ((some "@deploy.prod go").getD "")).toList).eraseDups = ["deploy"] := by
      decide +kernel
    rw [run] at named
    obtain ⟨agentId, rest, found, nobody, rfl⟩ := List.forall₂_cons_right_iff.mp named
    obtain rfl := List.forall₂_nil_right_iff.mp nobody
    have zero : agentId = 0 := by
      obtain ⟨agent, found, called⟩ := found
      have member : (agentId, agent) ∈ releasing.db.agents.rows := Table.mem_rows_iff.mpr found
      rcases List.mem_cons.mp member with here | other
      · exact (Prod.mk.inj here).1
      · obtain rfl := (Prod.mk.inj (List.mem_singleton.mp other)).2
        exact absurd called (by decide)
    subst zero
    refine ⟨answer, rfl, mentioned, whole, first, ?_⟩
    rintro ⟨reached, called, again⟩
    obtain rfl := whole.unique again
    rw [mentioned, List.forall₂_cons] at called
    exact absurd (named_rightUnique releasing.db first called.1) (by decide)

end Allgres
