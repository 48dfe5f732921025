import OverlayFabric.Fabric.Client
import OverlayFabric.Proofs.Result

namespace OverlayFabric

abbrev Log := List (HttpRequest × Delivery)

def Transport.logged {τ : Type} (transport : Transport τ) : Transport (τ × Log) where
  deliver request := fun (state, log) =>
    let (delivery, after) := (transport.deliver request).run state
    (delivery, after, log ++ [(request, delivery)])

/-- From a state, an exchange comes to a result and another state and sends what its logged twin takes down. -/
def Sends {τ α : Type} (plain : Exchange τ α) (logged : Exchange (τ × Log) α) (state : τ)
    (result : Except FabricError α) (after : τ) (sent : Log) : Prop :=
  plain.run.run state = (result, after) ∧ ∀ log, logged.run.run (state, log) = (result, after, log ++ sent)

variable {τ α β : Type}

section Sends

variable {plain : Exchange τ α} {logged : Exchange (τ × Log) α} {next : α → Exchange τ β}
  {nextLogged : α → Exchange (τ × Log) β} {state between after : τ} {sent rest : Log}

theorem sends_done (result : Except FabricError α) :
    Sends (ExceptT.mk (pure result)) (ExceptT.mk (pure result)) state result state [] :=
  ⟨rfl, fun log => by rw [List.append_nil]; rfl⟩

theorem Sends.bind {value : α} {result : Except FabricError β} (first : Sends plain logged state (.ok value) between sent)
    (onward : Sends (next value) (nextLogged value) between result after rest) :
    Sends (plain >>= next) (logged >>= nextLogged) state result after (sent ++ rest) := by
  refine ⟨?_, fun log => ?_⟩
  · change (ExceptT.bindCont next (plain.run.run state).1) (plain.run.run state).2 = _
    rw [first.1]
    exact onward.1
  · change (ExceptT.bindCont nextLogged (logged.run.run (state, log)).1) (logged.run.run (state, log)).2 = _
    rw [first.2, ← List.append_assoc]
    exact onward.2 _

theorem Sends.finish {value : α} {result : Except FabricError β} (first : Sends plain logged state (.ok value) between sent)
    (onward : Sends (next value) (nextLogged value) between result after []) :
    Sends (plain >>= next) (logged >>= nextLogged) state result after sent :=
  List.append_nil sent ▸ first.bind onward

theorem Sends.stop {e : FabricError} (first : Sends plain logged state (.error e) after sent) :
    Sends (plain >>= next) (logged >>= nextLogged) state (.error e) after sent := by
  refine ⟨?_, fun log => ?_⟩
  · change (ExceptT.bindCont next (plain.run.run state).1) (plain.run.run state).2 = _
    rw [first.1]
    rfl
  · change (ExceptT.bindCont nextLogged (logged.run.run (state, log)).1) (logged.run.run (state, log)).2 = _
    rw [first.2]
    rfl

theorem Sends.discard {result : Except FabricError α} (sends : Sends plain logged state result after sent) :
    Sends (plain >>= fun _ => pure ()) (logged >>= fun _ => pure ()) state (result.map fun _ => ()) after sent := by
  cases result with
  | error e => exact sends.stop
  | ok value => exact sends.finish (sends_done (.ok ()))

end Sends

def Delivery.heard (url : String) (attempts : Nat) : Delivery → Except FabricError String
  | .answered status body => Client.textOf url status body
  | .broken reason | .unreachable reason => .error (.connectionFailed url attempts reason)

def Delivery.text? : Delivery → Option String
  | .answered status (some text) => if Client.isSuccess status then some text else none
  | _ => none

theorem Delivery.heard_eq_ok {delivery : Delivery} {url text : String} {attempts : Nat} :
    delivery.heard url attempts = .ok text ↔ delivery.text? = some text := by
  rcases delivery with why | why | ⟨status, _ | body⟩
  · simp [heard, text?]
  · simp [heard, text?]
  · simp [heard, text?, Client.textOf]
  · by_cases success : Client.isSuccess status = true <;> simp [heard, text?, Client.textOf, success]

def attempts (request : HttpRequest) (lost : List String) (last : Delivery) : Log :=
  lost.map (fun reason => (request, .unreachable reason)) ++ [(request, last)]

/-- So many attempts are within the budget, and there is another one as long as nobody is reached. -/
structure Tried (budget : Nat) (lost : List String) (last : Delivery) : Prop where
  within : lost.length + 1 ≤ budget
  spent : ∀ reason, last = .unreachable reason → lost.length + 1 = budget

namespace Client

variable {client : Client} {transport : Transport τ} {state between after : τ} {request : HttpRequest} {left attempt : Nat}
  {reason why : String} {delivery : Delivery} {result : Except FabricError String} {sent : Log}

theorem sends_request (outcome : (transport.deliver request).run state = (delivery, after)) :
    Sends (liftM (transport.deliver request)) (liftM (transport.logged.deliver request)) state (.ok delivery) after
      [(request, delivery)] := by
  have given : transport.deliver request state = (delivery, after) := outcome
  refine ⟨?_, fun log => ?_⟩
  · change (Except.ok (transport.deliver request state).1, (transport.deliver request state).2) = _
    rw [given]
  · change (Except.ok (transport.deliver request state).1, (transport.deliver request state).2,
      log ++ [(request, (transport.deliver request state).1)]) = _
    rw [given]

theorem sends_deliver_reached (outcome : (transport.deliver request).run state = (delivery, after))
    (reached : ∀ reason, delivery ≠ .unreachable reason) :
    Sends (deliver transport request attempt reason (left + 1)) (deliver transport.logged request attempt reason (left + 1))
      state (delivery.heard (toString request.url) (attempt + 1)) after [(request, delivery)] := by
  refine (sends_request outcome).finish ?_
  cases delivery with
  | unreachable reason => exact absurd rfl (reached reason)
  | broken reason => exact sends_done (.error _)
  | answered status body =>
      simp only [Delivery.heard]
      cases textOf (toString request.url) status body with
      | error e => exact sends_done (.error e)
      | ok text => exact sends_done (.ok text)

theorem sends_deliver_lost (outcome : (transport.deliver request).run state = (.unreachable why, between))
    (onward : Sends (deliver transport request (attempt + 1) why left)
      (deliver transport.logged request (attempt + 1) why left) between result after sent) :
    Sends (deliver transport request attempt reason (left + 1)) (deliver transport.logged request attempt reason (left + 1))
      state result after ((request, .unreachable why) :: sent) :=
  (sends_request outcome).bind onward

theorem sends_deliver (left attempt : Nat) (reason : String) (state : τ) : ∃ lost last after,
    Sends (deliver transport request attempt reason (left + 1)) (deliver transport.logged request attempt reason (left + 1))
      state (last.heard (toString request.url) (attempt + lost.length + 1)) after (attempts request lost last) ∧
    Tried (left + 1) lost last := by
  induction left generalizing attempt reason state with
  | zero =>
      rcases outcome : (transport.deliver request).run state with ⟨why | why | ⟨status, body⟩, after⟩
      · exact ⟨[], .unreachable why, after, sends_deliver_lost outcome (sends_done (.error _)), Nat.le_refl 1,
          fun _ _ => rfl⟩
      · exact ⟨[], .broken why, after, sends_deliver_reached outcome nofun, Nat.le_refl 1, nofun⟩
      · exact ⟨[], .answered status body, after, sends_deliver_reached outcome nofun, Nat.le_refl 1, nofun⟩
  | succ left ih =>
      rcases outcome : (transport.deliver request).run state with ⟨why | why | ⟨status, body⟩, between⟩
      · obtain ⟨lost, last, after, sends, tried⟩ := ih (attempt + 1) why between
        refine ⟨why :: lost, last, after, ?_, ?_, fun reason same => ?_⟩
        · rw [List.length_cons, ← Nat.add_assoc, Nat.add_right_comm attempt]
          exact sends_deliver_lost outcome sends
        · exact Nat.succ_le_succ tried.within
        · exact congrArg Nat.succ (tried.spent reason same)
      · exact ⟨[], .broken why, between, sends_deliver_reached outcome nofun, Nat.succ_le_succ (Nat.zero_le _), nofun⟩
      · exact ⟨[], .answered status body, between, sends_deliver_reached outcome nofun, Nat.succ_le_succ (Nat.zero_le _), nofun⟩

def requestFor (client : Client) (method : HttpMethod) (url : Url) (body : Option Json) : HttpRequest :=
  ⟨method, url, client.authorization url, body⟩

def budget (client : Client) : Nat := Nat.min (client.retry.retries + 1) Number.wordLimit

theorem sends_send {method : HttpMethod} (again : method.isIdempotent = true) (url : Url) (body : Option Json)
    (state : τ) : ∃ lost last after,
    Sends (client.send transport method url body) (client.send transport.logged method url body) state
      (last.heard (toString url) (lost.length + 1)) after (attempts (client.requestFor method url body) lost last) ∧
    Tried client.budget lost last := by
  have allowed : client.retry.attempts method = client.budget := by rw [RetryPolicy.attempts, if_pos again, budget]
  obtain ⟨left, same⟩ := Nat.exists_eq_add_of_lt (client.retry.attempts_pos method)
  rw [Nat.zero_add] at same
  obtain ⟨lost, last, after, sends, tried⟩ :=
    @sends_deliver _ transport (client.requestFor method url body) left 0 "" state
  rw [Nat.zero_add] at sends
  unfold send
  rw [← allowed, same]
  exact ⟨lost, last, after, sends, tried⟩

def deviceIn (url switch text : String) : Except FabricError String :=
  match devicesOf? text with
  | none => .error (.undecodable url "the response is no list of devices")
  | some [] => .error (.switchNotFound switch)
  | some (device :: _) => .ok (identifier device)

theorem sends_deviceId {base : Url} {switch : String} (joined : client.urlOf "devices" = .ok base) (state : τ) :
    let url := base.addQuery "ip_address" switch
    ∃ lost last after,
      Sends (client.deviceId transport switch) (client.deviceId transport.logged switch) state
        (last.heard (toString url) (lost.length + 1) >>= deviceIn (toString url) switch) after
        (attempts (client.requestFor .get url none) lost last) ∧
      Tried client.budget lost last := by
  intro url
  obtain ⟨lost, last, after, sends, tried⟩ :=
    @sends_send _ client transport .get (by decide) url none state
  refine ⟨lost, last, after, ?_, tried⟩
  unfold deviceId
  rw [joined]
  refine (sends_done (.ok base)).bind ?_
  cases told : last.heard (toString url) (lost.length + 1) with
  | error e =>
      rw [told] at sends
      exact sends.stop
  | ok text =>
      rw [told] at sends
      refine sends.finish ?_
      change Sends _ _ _ (deviceIn (toString url) switch text) _ _
      unfold deviceIn
      match devicesOf? text with
      | none => exact sends_done (.error _)
      | some [] => exact sends_done (.error _)
      | some (device :: _) => exact sends_done (.ok _)

theorem deviceIn_eq_ok {url switch text id : String} : deviceIn url switch text = .ok id ↔
    ∃ device, (devicesOf? text).bind List.head? = some device ∧ identifier device = id := by
  unfold deviceIn
  match devicesOf? text with
  | none => simp
  | some [] => simp
  | some (device :: _) => simp

-- What is not asked for may be anything; what is asked for must not be told twice.
example : (devicesOf? "\x7b\"devices\": [[4]], \"next\": 1e999\x7d").isSome = true := by decide +kernel

example : (devicesOf? "\x7b\"devices\": [[4]], \"devices\": [[4]]\x7d").isSome = false := by decide +kernel

end Client

/-- The device that a lookup found: the first of the list in its answer. -/
def Delivery.device? (delivery : Delivery) : Option Json :=
  delivery.text?.bind fun text => (Client.devicesOf? text).bind List.head?

theorem Delivery.found_eq_ok {delivery : Delivery} {url switch id : String} {attempts : Nat} :
    (delivery.heard url attempts >>= Client.deviceIn url switch) = .ok id ↔
      ∃ device, delivery.device? = some device ∧ Client.identifier device = id := by
  rw [Result.bind_eq_ok]
  constructor
  · rintro ⟨text, told, read⟩
    obtain ⟨device, first, named⟩ := Client.deviceIn_eq_ok.mp read
    exact ⟨device, by rw [device?, heard_eq_ok.mp told]; exact first, named⟩
  · rintro ⟨device, found, named⟩
    obtain ⟨text, told, first⟩ := Option.bind_eq_some_iff.mp found
    exact ⟨text, heard_eq_ok.mpr told, Client.deviceIn_eq_ok.mpr ⟨device, first, named⟩⟩

namespace Client

variable {client : Client} {transport : Transport τ}

/-- One lookup of a device and, if it finds one, one action on that device. -/
structure Asked (client : Client) (switch action : String) (body : Json) (base : Url) (lost : List String)
    (last : Delivery) (result : Except FabricError Unit) (sent : Log) : Prop where
  joined : client.urlOf "devices" = .ok base
  tried : Tried client.budget lost last
  unfound : last.device? = none →
    let lookup := base.addQuery "ip_address" switch
    sent = attempts (client.requestFor .get lookup none) lost last ∧ ∃ e,
      (last.heard (toString lookup) (lost.length + 1) >>= deviceIn (toString lookup) switch) = .error e ∧ result = .error e
  found : ∀ device, last.device? = some device → ∃ target lost' last',
    client.urlOf s!"devices/{identifier device}/{action}" = .ok target ∧ Tried client.budget lost' last' ∧
      sent = attempts (client.requestFor .get (base.addQuery "ip_address" switch) none) lost last ++
        attempts (client.requestFor .put target (some body)) lost' last' ∧
      result = (last'.heard (toString target) (lost'.length + 1)).map (fun _ => ()) ∧
      (result = .ok () ↔ last'.text?.isSome = true)

section Hierarchical

variable {segments : List (List Char)} (hierarchical : client.base.path = .segments segments)

include hierarchical

theorem urlOf_ok (path : String) : ∃ url, client.urlOf path = .ok url := by
  unfold urlOf Url.resolve
  rw [hierarchical]
  exact ⟨_, rfl⟩

theorem sends_perform (live : client.dryRun = false) (switch action : String) (body : Json) (state : τ) :
    ∃ base lost last result after sent,
      Sends (client.perform transport switch action body) (client.perform transport.logged switch action body) state result
        after sent ∧
      client.Asked switch action body base lost last result sent := by
  obtain ⟨base, joined⟩ := urlOf_ok hierarchical "devices"
  obtain ⟨lost, last, between, looked, tried⟩ := @sends_deviceId _ client transport base switch joined state
  unfold perform
  simp only [live, Bool.false_eq_true, if_false]
  cases told : last.heard (toString (base.addQuery "ip_address" switch)) (lost.length + 1) >>=
      deviceIn (toString (base.addQuery "ip_address" switch)) switch with
  | error e =>
      rw [told] at looked
      refine ⟨base, lost, last, _, _, _, looked.stop, joined, tried, fun _ => ⟨rfl, e, told, rfl⟩, fun device found => ?_⟩
      rw [Delivery.found_eq_ok.mpr ⟨device, found, rfl⟩] at told
      cases told
  | ok id =>
      rw [told] at looked
      obtain ⟨device, found, rfl⟩ := Delivery.found_eq_ok.mp told
      obtain ⟨target, reached⟩ := urlOf_ok hierarchical s!"devices/{identifier device}/{action}"
      obtain ⟨lost', last', after, acted, again⟩ :=
        @sends_send _ client transport .put (by decide) target (some body) between
      refine ⟨base, lost, last, (last'.heard (toString target) (lost'.length + 1)).map fun _ => (), after,
        attempts _ lost last ++ attempts (client.requestFor .put target (some body)) lost' last', looked.bind ?_,
        joined, tried, fun nobody => ?_, fun other first => ?_⟩
      · rw [reached]
        exact (sends_done (.ok target)).bind acted.discard
      · rw [nobody] at found
        cases found
      · cases found.symm.trans first
        refine ⟨target, lost', last', reached, again, rfl, rfl, ?_⟩
        rw [Result.map_eq_ok, Option.isSome_iff_exists]
        simp only [Delivery.heard_eq_ok, and_true]

end Hierarchical

end Client

def Call.misdirection : Call → Option String
  | .pushVrf request => if request.mode.isPush then none else some s!"{request.mode.name} is not a push mode"
  | .retractVrf request => if request.mode.isPush then some s!"{request.mode.name} is not a retract mode" else none
  | _ => none

def Call.action : Call → String
  | .pushL2 _ => "neutron_create_network"
  | .retractL2 _ => "neutron_delete_network"
  | .pushVrf request | .retractVrf request => request.mode.action

namespace Client

variable {client : Client} {transport : Transport τ} {call : Call} {state : τ}

theorem call_of_misdirection {reason : String} (wrong : call.misdirection = some reason) :
    client.call transport call = throw (.invalidRequest reason) := by
  cases call with
  | pushL2 request => cases wrong
  | retractL2 request => cases wrong
  | pushVrf request =>
      cases toward : request.mode.isPush <;> simp only [Call.misdirection, toward] at wrong <;> cases wrong
      simp only [call, toward]
      rfl
  | retractVrf request =>
      cases toward : request.mode.isPush <;> simp only [Call.misdirection, toward] at wrong <;> cases wrong
      simp only [call, toward]
      rfl

theorem call_of_directed (directed : call.misdirection = none) :
    client.call transport call = client.perform transport call.switch call.action call.body := by
  cases call with
  | pushL2 request => rfl
  | retractL2 request => rfl
  | pushVrf request =>
      cases toward : request.mode.isPush <;> simp only [Call.misdirection, toward] at directed <;> cases directed
      simp only [call, toward]
      rfl
  | retractVrf request =>
      cases toward : request.mode.isPush <;> simp only [Call.misdirection, toward] at directed <;> cases directed
      simp only [call, toward]
      rfl

end Client
end OverlayFabric
