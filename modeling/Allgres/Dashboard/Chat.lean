import Allgres.Dashboard.Accounts
import Allgres.Session
import Allgres.NextStep
import Allgres.Operator

/-! Conversations of a user with an agent, in a project and on the messenger. -/

namespace Allgres

open Relational Jsonb Sql

/-- The session that a user carries on with a partner. -/
def chatSession (chats : List ChatRow) (userId partnerId : Nat) : Option Nat :=
  (chats.find? fun chat => chat.userId == userId && chat.partnerId == partnerId).map ChatRow.sessionId

/-- What a sent message has opened, and the tables. -/
structure Sent where
  sessionId : Nat
  taskId : Nat
  site : Site

def Sent.toJson (sent : Sent) : Json :=
  .build [("ok", .bool true), ("session_id", idJson sent.sessionId), ("task_id", idJson sent.taskId)]

/-- A new session of the agent, or the next turn of the one that is carried on already. -/
def converse (env : WebEnv) (site : Site) (agentId : Nat) (projectId : Option Nat) (message : String) :
    Option Nat → Except String Created
  | none => fnCreateSession env.toEnv site.db agentId (some message) projectId none
  | some sessionId => fnContinueSession env.toEnv site.db sessionId (some message)

/-- The row that leads to a new session. -/
def remembered (chats : List ChatRow) (userId partnerId sessionId : Nat) : List ChatRow :=
  if (chatSession chats userId partnerId).isSome then chats else chats ++ [⟨userId, partnerId, sessionId⟩]

def fnChatSend (env : WebEnv) (site : Site) (token : Option String) (agentId : Option Nat) (message : Option String) :
    Except String Sent :=
  match requireAgentAccess env site token agentId with
  | .error message => .error message
  | .ok ⟨userId, agentId, site⟩ =>
    let message := btrim (message.getD "")
    if message = "" then .error "message required"
    else match converse env site agentId none message (chatSession site.agentChats userId agentId) with
      | .error message => .error message
      | .ok created =>
        .ok ⟨created.sessionId, created.taskId, { site with
          db := created.db
          agentChats := remembered site.agentChats userId agentId created.sessionId }⟩

def fnProjectChatSend (env : WebEnv) (site : Site) (token : Option String) (projectId : Option Nat)
    (message : Option String) : Except String Sent :=
  match requireProjectAccess env site token projectId with
  | .error message => .error message
  | .ok (project, ⟨userId, agentId, site⟩) =>
    let message := btrim (message.getD "")
    if message = "" then .error "message required"
    else match converse env site agentId (some project) message (chatSession site.projectChats userId project) with
      | .error message => .error message
      | .ok created =>
        .ok ⟨created.sessionId, created.taskId, { site with
          db := created.db
          projectChats := remembered site.projectChats userId project created.sessionId }⟩

/-- The turns of a session, without those of delegated tasks. -/
def chatHistory (env : WebEnv) (site : Site) : Option Nat → Json
  | none => .build [("ok", .bool true), ("session_id", .null), ("status", .null), ("messages", .arr [])]
  | some sessionId =>
    let shown := site.db.logs.filter fun log =>
      (site.db.tasks.get? log.taskId).any (fun task => task.sessionId == sessionId && task.parentTaskId.isNone) &&
        (log.role == .user || log.role == .assistant || log.role == .operator)
    .build [("ok", .bool true), ("session_id", idJson sessionId),
      ("status", .optStr ((site.db.sessions.get? sessionId).map fun session => session.status.text)),
      ("messages", .arr ((shown.insertionSort fun a b => a.createdAt ≤ b.createdAt).map fun log =>
        .build [("role", .str log.role.text), ("content", .str (logContentText log.content)),
          ("created_at", env.timeJson log.createdAt)]))]

def fnChatHistory (env : WebEnv) (site : Site) (token : Option String) (agentId : Option Nat) :
    Except String (Json × Site) :=
  (requireAgentAccess env site token agentId).map fun ⟨userId, agentId, site⟩ =>
    (chatHistory env site (chatSession site.agentChats userId agentId), site)

def fnProjectChatHistory (env : WebEnv) (site : Site) (token : Option String) (projectId : Option Nat) :
    Except String (Json × Site) :=
  (requireProjectAccess env site token projectId).map fun (project, ⟨userId, _, site⟩) =>
    (chatHistory env site (chatSession site.projectChats userId project), site)

/-! ### The messenger -/

def nameChar (c : Char) : Bool := c.isAlphanum || c == '_' || c == '-'

private def mention (letters : List Char) : List String :=
  if letters.isEmpty then [] else [String.ofList letters.reverse]

/-- The matches of `@([A-Za-z0-9_-]+)`; the letters of the one under way come in reverse. -/
def mentionsIn : Option (List Char) → List Char → List String
  | none, [] => []
  | some letters, [] => mention letters
  | none, c :: rest => mentionsIn (if c == '@' then some [] else none) rest
  | some letters, c :: rest =>
    if nameChar c then mentionsIn (some (c :: letters)) rest
    else mention letters ++ mentionsIn (if c == '@' then some [] else none) rest

example : mentionsIn none "@a-1, x@@b @".toList = ["a-1", "b"] := by decide +kernel

/-- What the loop over the mentions has delivered. -/
structure Delivery where
  agentIds : List Nat
  sessionIds : List Nat
  site : Site

/-- One pass of the loop. -/
def deliver (env : WebEnv) (token : Option String) (text : String) (delivered : Delivery) (name : String) :
    Except String Delivery :=
  match delivered.site.db.agentNamed name with
  | none => .error ("no such agent: " ++ name)
  | some (agentId, _) => match requireAgentAccess env delivered.site token (some agentId) with
    | .error message => .error message
    | .ok access => match fnChatSend env access.site token (some agentId) (some text) with
      | .error message => .error message
      | .ok sent => .ok ⟨delivered.agentIds ++ [agentId], delivered.sessionIds ++ [sent.sessionId], sent.site⟩

def fnMessengerPost (env : WebEnv) (site : Site) (token text : Option String) : Except String (Json × Site) :=
  match sessionUser env site token with
  | (none, _) => .error "not logged in"
  | (some (userId, _), site) =>
    let text := btrim (text.getD "")
    if text = "" then .error "message required"
    else match (mentionsIn none text.toList).eraseDups.foldlM (deliver env token text) ⟨[], [], site⟩ with
      | .error message => .error message
      | .ok delivered =>
        let mentioned := delivered.agentIds.head?
        let sessionId := delivered.sessionIds.head?
        let agentIds := if delivered.agentIds.isEmpty then none else some delivered.agentIds
        let messageId := delivered.site.messages.next
        .ok (.build [("ok", .bool true), ("message_id", idJson messageId), ("mentioned_agent_id", optIdJson mentioned),
            ("session_id", optIdJson sessionId), ("mentioned_agent_ids", .arr (delivered.agentIds.map idJson))],
          { delivered.site with
            messages := delivered.site.messages.insert ⟨userId, text, mentioned, sessionId, agentIds, env.now⟩ })

/-! ### A user's own model -/

def fnSetMyModel (env : WebEnv) (site : Site) (token : Option String) (agentId : Option Nat)
    (provider model : Option String) : Except String (Json × Site) :=
  match requireAgentAccess env site token agentId with
  | .error message => .error message
  | .ok ⟨_, agentId, site⟩ =>
    site.onDb (fnSetPolicy site.db agentId none
      (some (.build [("provider", .optStr provider), ("model", .optStr model)])))

end Allgres
