import Allgres.Lib.JsonWriting
import Allgres.Machine
import Allgres.Submit.Raises

/-! The idempotency keys of the requests that agents send. -/

namespace Allgres

open Relational Jsonb Sql

variable {env : Env} {db db' : Db} {turn : Turn} {t : Nat} {request : Request}

/-- The header of a request holds the hash of the request. -/
def Request.Keyed (env : Env) (t : Nat) (request : Request) : Prop :=
  ∀ url, request.url = some url → request.headers.getText? "idempotency-key" =
    some (env.pg.md5 (uuidText t ++ "|" ++ request.method.text ++ "|" ++ url ++ "|" ++ request.body.text))

theorem withIdempotencyKey_keyed {fields : List (String × Json)} (headers : request.headers = .obj fields)
    (missing : fields.lookup "idempotency-key" = none) : (withIdempotencyKey env t request).Keyed env t := by
  have absent : request.headers.hasKey "idempotency-key" = false := by
    rw [headers, Json.hasKey_obj, missing]
    rfl
  intro url given
  simp only [withIdempotencyKey, absent, Bool.false_eq_true, if_false] at given ⊢
  have added (value : Json) : request.headers.concat (.build [("idempotency-key", value)]) =
      .obj (Json.setField "idempotency-key" value fields) := by
    rw [headers]
    rfl
  rw [added, Json.getText?, Json.get?, Json.lookup_setField, if_pos rfl, idempotencyKey, given]
  rfl

theorem mcpRequest_keyed {bound : Option FunctionRow} {args origArgs : Json}
    (made : mcpRequest env db t bound args origArgs = .ok request) : request.Keyed env t := by
  simp only [mcpRequest] at made
  split at made
  · cases made
  · split at made
    · cases made
    · obtain rfl := Except.ok.inj made
      exact withIdempotencyKey_keyed rfl (by decide)

/-- The `accept` header comes after the headers of the agent. -/
theorem httpHeaders (env : Env) (args : Json) : ∃ fields, agentHeaders env args = .obj fields ∧
    (agentHeaders env args).concat (.build [("accept", .str "application/json, text/plain, */*")]) =
      .obj (Json.setField "accept" (.str "application/json, text/plain, */*") fields) := ⟨_, rfl, rfl⟩

theorem httpRequest_keyed {args : Json} (made : httpRequest env db t args = .ok request)
    (mutates : request.method.mutates = true) (own : (agentHeaders env args).hasKey "idempotency-key" = false) :
    request.Keyed env t := by
  simp only [httpRequest] at made
  split at made
  · cases made
  · rename_i method _
    split at made
    · cases made
    · obtain rfl := Except.ok.inj made
      obtain ⟨fields, agent, whole⟩ := httpHeaders env args
      have missing : fields.lookup "idempotency-key" = none := by
        rw [agent, Json.hasKey_obj] at own
        simpa using own
      split
      · refine withIdempotencyKey_keyed whole ?_
        rw [Json.lookup_setField, if_neg (by decide), missing]
      · rename_i plain
        rw [if_neg plain] at mutates
        exact absurd mutates plain

/-- What a request that is sent becomes. -/
structure SentAs (env : Env) (t : Nat) (request : Request) (call : CallRow OutboundBody) : Prop where
  task : call.taskId = t
  kind : call.body.kind = request.kind
  method : call.body.method = request.method
  url : request.url = some call.body.url
  body : call.body.requestBody = request.body
  key : call.body.idempotencyKey = request.headers.getText? "idempotency-key"

theorem bumpStep_outboundCalls (db : Db) (env : Env) (t : Nat) : (db.bumpStep env t).outboundCalls = db.outboundCalls :=
  (held_iff.mp (updateTask_spares t fun row => { row with stepCount := row.stepCount + 1 }).held).1

theorem refuse_unsent (content reply : List (String × Json)) :
    (turn.refuse env db content reply).2.outboundCalls.get? db.outboundCalls.next = none := by
  have same : (turn.refuse env db content reply).2.outboundCalls = db.outboundCalls := bumpStep_outboundCalls _ _ _
  rw [same, Table.get?_next]

theorem sendRequest_sent {function : Option String} {bound : Option (Nat × Option Nat)} {args : Json}
    {call : CallRow OutboundBody}
    (queued : (sendRequest env db turn function bound args request).2.outboundCalls.get? db.outboundCalls.next =
      some call) : SentAs env turn.taskId request call := by
  simp only [sendRequest] at queued
  split at queued
  · rw [refuse_unsent] at queued
    cases queued
  · rename_i accepted
    split at queued
    · rw [refuse_unsent] at queued
      cases queued
    · simp only [bumpStep_outboundCalls, Db.insertOutbound, Table.get?_insert, if_true] at queued
      obtain rfl := Option.some.inj queued
      have given : ∃ url, request.url = some url := by
        rcases target : request.url with _ | url
        · rw [target] at accepted
          cases accepted
        · exact ⟨url, rfl⟩
      obtain ⟨url, given⟩ := given
      exact ⟨rfl, rfl, rfl, by simp [given, Db.newCall, plainOutbound], rfl, rfl⟩

/-! ### Calls -/

/-- `v_args`: the arguments of the agent, or the ones that the function fixes for it. -/
def effectiveArgs (env : Env) (db : Db) (agentId : Nat) (parsed : Json) : Json :=
  let name := parsed.getText? "function"
  if agentHasPermission env db agentId .function name then (parsed.get? "args").getD .emptyObj
  else ((boundFunction env db agentId name).map fun function => function.2.argsTemplate).getD .emptyObj

/-- Log rows have no part in what an agent may call. -/
theorem effectiveArgs_log (role : Role) (content : Json) (agentId : Nat) (parsed : Json) :
    effectiveArgs env (turn.log env db role content) agentId parsed = effectiveArgs env db agentId parsed := by
  have chain : (turn.log env db role content).chain = db.chain :=
    funext fun agentId => @agentChain_congr db (turn.log env db role content) rfl db.agents.rows.length agentId
  simp only [effectiveArgs, agentHasPermission, boundFunction, grantsProcedure, agentPermissionRefs, chain]
  rfl

theorem callOutbound_sent {function : Option String} {bound : Option (Nat × FunctionRow × Option Nat)}
    {args origArgs : Json} {call : CallRow OutboundBody}
    (queued : (callOutbound env db turn function bound args origArgs).2.outboundCalls.get? db.outboundCalls.next =
      some call) (mutates : call.body.method.mutates = true)
    (own : call.body.kind = .mcp ∨ (agentHeaders env args).hasKey "idempotency-key" = false) :
    ∃ request, SentAs env turn.taskId request call ∧ request.Keyed env turn.taskId := by
  simp only [callOutbound] at queued
  split at queued
  · rw [refuse_unsent] at queued
    cases queued
  · rename_i request built
    have sent := sendRequest_sent queued
    refine ⟨request, sent, ?_⟩
    simp only [buildRequest] at built
    split at built
    · obtain rfl := Except.ok.inj built
      rw [sent.method] at mutates
      cases mutates
    · exact mcpRequest_keyed built
    · rcases own with mcp | missing
      · rw [sent.kind, httpRequest_kind built] at mcp
        cases mcp
      · exact httpRequest_keyed built (by rw [← sent.method]; exact mutates) missing
    · cases built

theorem callFunction_sent {parsed : Json} {call : CallRow OutboundBody}
    (queued : (callFunction env db turn parsed).2.outboundCalls.get? db.outboundCalls.next = some call)
    (mutates : call.body.method.mutates = true) (own : call.body.kind = .mcp ∨
      (agentHeaders env (effectiveArgs env db turn.task.agentId parsed)).hasKey "idempotency-key" = false) :
    ∃ request, SentAs env turn.taskId request call ∧ request.Keyed env turn.taskId := by
  simp only [callFunction] at queued
  simp only [effectiveArgs] at own
  split at queued
  · rename_i permitted
    rw [if_pos permitted] at own
    exact callOutbound_sent queued mutates own
  · rename_i permitted
    rw [if_neg permitted] at own
    split at queued
    · rw [refuse_unsent] at queued
      cases queued
    · rename_i functionId function chosen
      rw [chosen] at own
      split at queued
      · simp only [callBody] at queued
        split at queued
        · rw [refuse_unsent] at queued
          cases queued
        · simp only [bumpStep_outboundCalls, Db.insertFunctionCall, Table.get?_next] at queued
          cases queued
      · exact callOutbound_sent queued mutates own

/-- A call that `fn_submit_result` queues for the action `call_function`, to be made with a key of the
function's own: it changes something elsewhere, and the agent has not given a key. -/
structure QueuedMutation (env : Env) (db : Db) (t : Nat) (payload : Json) (call : CallRow OutboundBody) : Prop where
  action : payload.getText? "type" = some "llm_response" ∧
    ((parsedReply payload).bind fun value => value.getText? "action") = some "call_function"
  queued : ∃ reply db', fnSubmitResult env db t payload = .ok (reply, db') ∧
    db'.outboundCalls.get? db.outboundCalls.next = some call
  mutates : call.body.method.mutates = true
  derived : call.body.kind = .mcp ∨ ∀ task, db.tasks.get? t = some task →
    (agentHeaders env (effectiveArgs env db task.agentId ((parsedReply payload).getD .null))).hasKey
      "idempotency-key" = false

theorem QueuedMutation.sent {payload : Json} {call : CallRow OutboundBody}
    (mutation : QueuedMutation env db t payload call) : ∃ request, SentAs env t request call ∧ request.Keyed env t := by
  obtain ⟨reply, db', done, found⟩ := mutation.queued
  rw [fnSubmitResult] at done
  split at done
  · cases done
  · rename_i task here
    split at done
    · cases done
    · split at done
      · obtain ⟨-, rfl⟩ := Prod.mk.inj (Except.ok.inj done)
        rw [(held_iff.mp (failTask_spares t task _ _).held).1, Table.get?_next] at found
        cases found
      · rename_i agent _
        have chosen : ((parsedReply payload).bind fun value => value.getText? "action").bind Action.ofText =
            some .callFunction := by
          rw [mutation.action.2]
          rfl
        simp only [submitPayload, mutation.action.1, submitReply, chosen, act] at done
        have acted := congrArg Prod.snd (Except.ok.inj done)
        change _ = db' at acted
        rw [← acted] at found
        refine callFunction_sent found mutation.mutates (mutation.derived.imp_right fun missing => ?_)
        rw [effectiveArgs_log]
        exact missing task here

/-! ### Keys -/

theorem methodText_inj {method method' : Method} {rest rest' : List Char}
    (same : method.text.toList ++ '|' :: rest = method'.text.toList ++ '|' :: rest') :
    method = method' ∧ rest = rest' := by
  cases method <;> cases method' <;> simp_all [Method.text]

/-- The text that is hashed says what the request is. -/
theorem keyText_inj {t t' : Nat} {method method' : Method} {url url' : String} {body body' : Json}
    (fits : t < 2 ^ 128) (fits' : t' < 2 ^ 128)
    (same : uuidText t ++ "|" ++ method.text ++ "|" ++ url ++ "|" ++ body.text =
      uuidText t' ++ "|" ++ method'.text ++ "|" ++ url' ++ "|" ++ body'.text) :
    t = t' ∧ method = method' ∧ url = url' ∧ body = body' := by
  have chars := congrArg String.toList same
  have bar : "|".toList = ['|'] := rfl
  simp only [String.toList_append, bar, List.append_assoc, List.singleton_append] at chars
  obtain ⟨task, behindTask⟩ := List.append_inj chars ((length_uuidText t).trans (length_uuidText t').symm)
  obtain ⟨rfl, behindMethod⟩ := methodText_inj (List.cons.inj behindTask).2
  obtain ⟨target, content⟩ := Json.bar_inj behindMethod
  exact ⟨uuidText_inj fits fits' (String.toList_inj.mp task), rfl, String.toList_inj.mp target, content⟩

/-- Every mutating call has a key, and two of them have the same key just when they are the same request
of the same task; the body is the same if its numbers are also written with the same scale. -/
theorem idempotencyKey_identifies {env' : Env} {t' : Nat} {payload payload' : Json} {call call' : CallRow OutboundBody}
    (injective : Function.Injective env.pg.md5) (md5 : env'.pg.md5 = env.pg.md5) (fits : t < 2 ^ 128)
    (fits' : t' < 2 ^ 128) (queued : QueuedMutation env db t payload call)
    (queued' : QueuedMutation env' db' t' payload' call') :
    call.body.idempotencyKey.isSome ∧ (call.body.idempotencyKey = call'.body.idempotencyKey ↔
      call.taskId = call'.taskId ∧ call.body.method = call'.body.method ∧ call.body.url = call'.body.url ∧
        call.body.requestBody = call'.body.requestBody) := by
  obtain ⟨request, sent, keyed⟩ := queued.sent
  obtain ⟨request', sent', keyed'⟩ := queued'.sent
  have key := keyed call.body.url sent.url
  have key' := keyed' call'.body.url sent'.url
  rw [← sent.key, ← sent.method, ← sent.body] at key
  rw [← sent'.key, ← sent'.method, ← sent'.body, md5] at key'
  refine ⟨by rw [key]; rfl, ?_⟩
  rw [key, key', sent.task, sent'.task]
  constructor
  · intro same
    exact keyText_inj fits fits' (injective (Option.some.inj same))
  · rintro ⟨rfl, method, url, body⟩
    rw [method, url, body]

/-- The helper is in a turn, and may send requests to one host. -/
private def sendingDb : Db :=
  { helperDb (helperPolicy 5 none) with
    permissions := (Table.empty.insert ⟨0, .function, "http_request"⟩).insert ⟨0, .httpHost, "pay.example"⟩
    tasks := Table.empty.insert ⟨0, 0, none, .running, 0, .emptyObj, none, none, 0, 0, some 0, 0, none, none⟩ }

/-- The reply that chargeOf the amount. -/
private def chargeOf (amount : Json) : Json :=
  .build [("type", .str "llm_response"), ("parsed", .build [("action", .str "call_function"),
    ("function", .str "http_request"), ("args", .build [("method", .str "POST"),
      ("url", .str "https://pay.example/a|b"), ("body", .build [("amount", amount)])])])]

private def queuedCall (payload : Json) : Option (CallRow OutboundBody) :=
  match fnSubmitResult .bare sendingDb 0 payload with
  | .ok (_, db) => db.outboundCalls.get? sendingDb.outboundCalls.next
  | .error _ => none

private theorem queuedCall_mutation {amount : Json} {call : CallRow OutboundBody}
    (queued : queuedCall (chargeOf amount) = some call) (mutates : call.body.method.mutates = true)
    (plain : (agentHeaders .bare (effectiveArgs .bare sendingDb 0 ((parsedReply (chargeOf amount)).getD .null))).hasKey
      "idempotency-key" = false) : QueuedMutation .bare sendingDb 0 (chargeOf amount) call where
  action := ⟨rfl, rfl⟩
  queued := by
    rw [queuedCall] at queued
    split at queued
    · rename_i reply db' done
      exact ⟨reply, db', done, queued⟩
    · cases queued
  mutates := mutates
  derived := by
    refine .inr fun task here => ?_
    obtain rfl := Option.some.inj here
    exact plain

theorem idempotencyKey_identifies_retry : ∃ call call' : CallRow OutboundBody,
    QueuedMutation .bare sendingDb 0 (chargeOf (.num 10 1)) call ∧
    QueuedMutation .bare sendingDb 0 (chargeOf (.num 15 1)) call' ∧
    call.body.idempotencyKey.isSome ∧ call.body.idempotencyKey ≠ call'.body.idempotencyKey := by
  have runs : ((queuedCall (chargeOf (.num 10 1))).any fun call => (queuedCall (chargeOf (.num 15 1))).any fun call' =>
      call.body.method.mutates && call'.body.method.mutates &&
        call.body.requestBody.text != call'.body.requestBody.text) = true := by decide +kernel
  simp only [Option.any_eq_true, Bool.and_eq_true, bne_iff_ne] at runs
  obtain ⟨call, first, call', second, ⟨mutates, mutates'⟩, different⟩ := runs
  have queued := queuedCall_mutation first mutates (by decide +kernel)
  have queued' := queuedCall_mutation second mutates' (by decide +kernel)
  have injective : Function.Injective Env.bare.pg.md5 := fun _ _ same => same
  obtain ⟨key, identifies⟩ := idempotencyKey_identifies injective rfl (by decide) (by decide) queued queued'
  refine ⟨call, call', queued, queued', key, fun same => ?_⟩
  exact different (congrArg Json.text (identifies.mp same).2.2.2)

/-- One amount written in two ways: equal as `jsonb`, but the keys differ. -/
theorem not_idempotencyKey_identifies : ¬ ∀ (env env' : Env) (db db' : Db) (t t' : Nat) (payload payload' : Json)
    (call call' : CallRow OutboundBody), Function.Injective env.pg.md5 → env'.pg.md5 = env.pg.md5 → t < 2 ^ 128 →
    t' < 2 ^ 128 → QueuedMutation env db t payload call → QueuedMutation env' db' t' payload' call' →
    call.body.idempotencyKey.isSome ∧ (call.body.idempotencyKey = call'.body.idempotencyKey ↔
      call.taskId = call'.taskId ∧ call.body.method = call'.body.method ∧ call.body.url = call'.body.url ∧
        call.body.requestBody.same call'.body.requestBody = true) := by
  intro claim
  have runs : ((queuedCall (chargeOf (.num 10 1))).any fun call => (queuedCall (chargeOf (.num 100 2))).any fun call' =>
      call.body.method.mutates && call'.body.method.mutates && (call.taskId == call'.taskId &&
        call.body.method == call'.body.method && call.body.url == call'.body.url &&
        call.body.requestBody.same call'.body.requestBody &&
        call.body.idempotencyKey != call'.body.idempotencyKey)) = true := by decide +kernel
  simp only [Option.any_eq_true, Bool.and_eq_true, beq_iff_eq, bne_iff_ne] at runs
  obtain ⟨call, first, call', second, ⟨mutates, mutates'⟩, ⟨⟨⟨task, method⟩, url⟩, body⟩, differ⟩ := runs
  have queued := queuedCall_mutation first mutates (by decide +kernel)
  have queued' := queuedCall_mutation second mutates' (by decide +kernel)
  have injective : Function.Injective Env.bare.pg.md5 := fun _ _ same => same
  obtain ⟨-, identifies⟩ := claim _ _ _ _ _ _ _ _ _ _ injective rfl (by decide) (by decide) queued queued'
  exact differ (identifies.mpr ⟨task, method, url, body⟩)

end Allgres
