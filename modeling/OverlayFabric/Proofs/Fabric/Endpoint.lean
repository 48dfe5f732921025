import OverlayFabric.Proofs.Fabric.Device

namespace OverlayFabric.Client
open Text Url

variable {τ : Type} {client : Client} {transport : Transport τ} {settings : ControllerSettings} {call : Call} {state : τ}
  {base url : Url} {switch name : String} {body : Json} {request : HttpRequest} {answer last : Delivery} {lost : List String}
  {result : Except FabricError Unit} {sent : Log}

theorem ordinary_of_last {name : List Char} {last : Char} (ends : name.getLast? = some last) (bare : isEdge last = false)
    (unmarked : name.all (fun c => !pathMarks.contains c) = true) (undotted : isDots name = false)
    (kept : encodeWith keepsInPath name = name) : Ordinary name := by
  obtain ⟨front, split⟩ := List.getLast?_eq_some_iff.mp ends
  exact ⟨⟨front, last, split, bare⟩, unmarked_iff.mp unmarked, undotted, kept⟩

theorem ordinary_action : Ordinary call.action.toList := by
  have create : Ordinary "neutron_create_network".toList :=
    @ordinary_of_last _ 'k' (by decide) (by decide) (by decide) (by decide) (by decide)
  have delete : Ordinary "neutron_delete_network".toList :=
    @ordinary_of_last _ 'k' (by decide) (by decide) (by decide) (by decide) (by decide)
  have mode (mode : VrfMode) : Ordinary mode.action.toList := by
    cases mode with
    | create => exact @ordinary_of_last _ 'r' (by decide) (by decide) (by decide) (by decide) (by decide)
    | attach => exact @ordinary_of_last _ 'e' (by decide) (by decide) (by decide) (by decide) (by decide)
    | delete => exact @ordinary_of_last _ 'r' (by decide) (by decide) (by decide) (by decide) (by decide)
    | detach => exact @ordinary_of_last _ 'e' (by decide) (by decide) (by decide) (by decide) (by decide)
  cases call with
  | pushL2 request => exact create
  | retractL2 request => exact delete
  | pushVrf request => exact mode request.mode
  | retractVrf request => exact mode request.mode

theorem base_of_settings (accepted : ofSettings settings = .ok client) (web : isWeb client.base.scheme = true)
    (file : isFile client.base.scheme = false) : ∃ front, client.base.path = .segments (front ++ [[]]) ∧ Flat front := by
  unfold ofSettings at accepted
  split at accepted
  · cases accepted
  · next base given =>
      cases accepted
      rw [scheme_directory] at web file
      obtain ⟨segments, path, filled, flat⟩ := path_of_read given web
      exact path_directory path filled flat file

theorem resolve_of_urlOf (joined : client.urlOf s!"devices/{switch}/{name}" = .ok url) :
    client.base.resolve (reference switch.toList name.toList) = .ok url := by
  unfold urlOf at joined
  rw [toList_reference] at joined
  split at joined
  · next given => rw [given, Except.ok.inj joined]
  · cases joined

def Found (sent : Log) (device : Json) : Prop :=
  ∃ lookup answer, (lookup, answer) ∈ sent ∧ lookup.method = .get ∧ answer.device? = some device

theorem mem_attempts {asked : HttpRequest} : (request, answer) ∈ attempts asked lost last ↔
    request = asked ∧ (answer = last ∨ ∃ reason ∈ lost, answer = .unreachable reason) := by
  simp only [attempts, List.mem_append, List.mem_map, List.mem_singleton, Prod.mk.injEq]
  constructor
  · rintro (⟨reason, among, rfl, rfl⟩ | ⟨rfl, rfl⟩)
    · exact ⟨rfl, .inr ⟨reason, among, rfl⟩⟩
    · exact ⟨rfl, .inl rfl⟩
  · rintro ⟨rfl, rfl | ⟨reason, among, rfl⟩⟩
    · exact .inr ⟨rfl, rfl⟩
    · exact .inl ⟨reason, among, rfl, rfl⟩

def IsWebBase (client : Client) : Prop := isWeb client.base.scheme = true ∧ isFile client.base.scheme = false

/-- Who is told to act on account of what was sent, and where. -/
structure Told (client : Client) (action : String) (sent : Log) : Prop where
  web : ∀ device, Found sent device → client.IsWebBase
  put : ∀ device, Found sent device → ∃ request answer, (request, answer) ∈ sent ∧ request.method = .put
  target : ∀ request answer, (request, answer) ∈ sent → request.method = .put → ∃ device, Found sent device ∧
    (∀ other, Found sent other → other = device) ∧
    client.urlOf s!"devices/{identifier device}/{action}" = .ok request.url

theorem told_of_unfound
    (unfound : ∀ request answer, (request, answer) ∈ sent → request.method = .get ∧ answer.device? = none) :
    Told client name sent := by
  have nobody (device : Json) : ¬ Found sent device := by
    rintro ⟨lookup, answer, member, _, first⟩
    rw [(unfound lookup answer member).2] at first
    cases first
  refine ⟨fun device found => absurd found (nobody device), fun device found => absurd found (nobody device), ?_⟩
  intro request answer member put
  rw [(unfound request answer member).1] at put
  cases put

theorem told_nil : Told client name [] := told_of_unfound fun _ _ member => absurd member List.not_mem_nil

theorem told_of_asked (web : client.IsWebBase) (asked : client.Asked switch name body base lost last result sent) :
    Told client name sent := by
  cases found : last.device? with
  | none =>
      refine told_of_unfound fun request answer member => ?_
      rw [(asked.unfound found).1] at member
      obtain ⟨rfl, rfl | ⟨reason, _, rfl⟩⟩ := mem_attempts.mp member
      · exact ⟨rfl, found⟩
      · exact ⟨rfl, rfl⟩
  | some device =>
      obtain ⟨target, lost', last', joined, _, both, _⟩ := asked.found device found
      have acted : (client.requestFor .put target (some body), last') ∈ sent := by
        rw [both]
        exact List.mem_append_right _ (mem_attempts.mpr ⟨rfl, .inl rfl⟩)
      have looked : (client.requestFor .get (base.addQuery "ip_address" switch) none, last) ∈ sent := by
        rw [both]
        exact List.mem_append_left _ (mem_attempts.mpr ⟨rfl, .inl rfl⟩)
      have only (other : Json) (first : Found sent other) : other = device := by
        obtain ⟨lookup, answer, member, get, first⟩ := first
        rw [both, List.mem_append, mem_attempts, mem_attempts] at member
        rcases member with ⟨_, rfl | ⟨reason, _, rfl⟩⟩ | ⟨rfl, _⟩
        · exact Option.some.inj (first.symm.trans found)
        · cases first
        · cases get
      refine ⟨fun _ _ => web, fun _ _ => ⟨_, last', acted, rfl⟩, fun request answer member put => ?_⟩
      refine ⟨device, ⟨_, last, looked, rfl, found⟩, only, ?_⟩
      rw [both, List.mem_append, mem_attempts, mem_attempts] at member
      rcases member with ⟨rfl, _⟩ | ⟨rfl, _⟩
      · cases put
      · exact joined

/-! ## What gets on the way -/

theorem sends_nowhere {e : FabricError} (live : client.dryRun = false) (apart : client.urlOf "devices" = .error e) :
    Sends (client.perform transport switch name body) (client.perform transport.logged switch name body) state (.error e)
      state [] := by
  unfold perform deviceId
  simp only [live, Bool.false_eq_true, if_false, apart]
  exact (sends_done (.error e)).stop.stop

theorem sends_unsendable {method : HttpMethod} {content : Option Json}
    (barred : (client.requestFor method url content).isSendable = false) : ∃ e reason,
    Sends (client.send transport.http method url content) (client.send transport.http.logged method url content) state
      (.error e) state [(client.requestFor method url content, .broken reason)] := by
  obtain ⟨left, same⟩ := Nat.exists_eq_add_of_lt (client.retry.attempts_pos method)
  rw [Nat.zero_add] at same
  have outcome : (transport.http.deliver (client.requestFor method url content)).run state =
      (.broken "no request can be sent to the URL", state) := by
    simp only [Transport.http, barred, Bool.false_eq_true, if_false]
    rfl
  unfold send
  rw [same]
  exact ⟨.connectionFailed (toString url) 1 "no request can be sent to the URL", "no request can be sent to the URL",
    sends_deliver_reached outcome nofun⟩

theorem sends_apart (live : client.dryRun = false) (joined : client.urlOf "devices" = .ok base)
    (barred : (client.requestFor .get (base.addQuery "ip_address" switch) none).isSendable = false) : ∃ e reason,
    Sends (client.perform transport.http switch name body) (client.perform transport.http.logged switch name body) state
      (.error e) state [(client.requestFor .get (base.addQuery "ip_address" switch) none, .broken reason)] := by
  obtain ⟨e, reason, sends⟩ := @sends_unsendable _ client transport state _ _ _ barred
  refine ⟨e, reason, ?_⟩
  unfold perform deviceId
  simp only [live, Bool.false_eq_true, if_false, joined]
  refine Sends.stop ?_
  refine (sends_done (.ok base)).bind ?_
  exact sends.stop

theorem web_of_sendable (sendable : request.isSendable = true) :
    isWeb request.url.scheme = true ∧ isFile request.url.scheme = false := by
  simp only [HttpRequest.isSendable, Bool.and_eq_true, Bool.or_eq_true, beq_iff_eq] at sendable
  rcases sendable.1.1 with plain | secure
  · rw [plain]
    decide
  · rw [secure]
    decide

theorem base_of_urlOf {path : String} (joined : client.urlOf path = .ok url) :
    url.scheme = client.base.scheme ∧ ∃ segments, client.base.path = .segments segments := by
  unfold urlOf at joined
  split at joined
  · next given =>
      cases joined
      unfold resolve at given
      split at given
      · cases given
      · next segments whole =>
          cases given
          exact ⟨rfl, segments, whole⟩
  · cases joined

theorem sends_perform_told (live : client.dryRun = false) : ∃ result after sent,
    Sends (client.perform transport.http switch name body) (client.perform transport.http.logged switch name body) state
      result after sent ∧ Told client name sent := by
  cases joined : client.urlOf "devices" with
  | error e => exact ⟨_, state, [], sends_nowhere live joined, told_nil⟩
  | ok base =>
      obtain ⟨scheme, segments, hierarchical⟩ := base_of_urlOf joined
      cases sendable : (client.requestFor .get (base.addQuery "ip_address" switch) none).isSendable with
      | true =>
          have web : client.IsWebBase := by
            rw [IsWebBase, ← scheme]
            exact web_of_sendable sendable
          obtain ⟨_, _, _, result, after, sent, sends, asked⟩ :=
            @sends_perform _ client transport.http segments hierarchical live switch name body state
          exact ⟨result, after, sent, sends, told_of_asked web asked⟩
      | false =>
          obtain ⟨e, reason, sends⟩ := @sends_apart _ client transport state _ _ name body live joined sendable
          refine ⟨_, state, _, sends, told_of_unfound fun request answer member => ?_⟩
          cases List.mem_singleton.mp member
          exact ⟨rfl, rfl⟩

theorem sends_told : ∃ result after sent,
    Sends (client.call transport.http call) (client.call transport.http.logged call) state result after sent ∧
      Told client call.action sent := by
  cases misdirection : call.misdirection with
  | some reason =>
      rw [call_of_misdirection misdirection, call_of_misdirection misdirection]
      exact ⟨_, state, [], sends_done (.error _), told_nil⟩
  | none =>
      rw [call_of_directed misdirection, call_of_directed misdirection]
      cases live : client.dryRun with
      | true =>
          refine ⟨.ok (), state, [], ?_, told_nil⟩
          unfold perform
          simp only [live, if_true]
          exact sends_done (.ok ())
      | false => exact sends_perform_told live

/-- A device is told to act once a lookup has found it, at the host of the controller, and at the address of the action
on that device just when its identifier stands for itself as a segment of a path. -/
theorem told_at_endpoint_iff_plain (accepted : ofSettings settings = .ok client) : ∃ result after sent,
    Sends (client.call transport.http call) (client.call transport.http.logged call) state result after sent ∧
      (∀ device, Found sent device → ∃ request answer, (request, answer) ∈ sent ∧ request.method = .put) ∧
      ∀ request answer, (request, answer) ∈ sent → request.method = .put → ∃ device, Found sent device ∧
        (∀ other, Found sent other → other = device) ∧
        request.url.scheme = client.base.scheme ∧ request.url.authority = client.base.authority ∧
        (IsEndpoint client.base (identifier device).toList call.action.toList request.url ↔
          Plain (identifier device).toList) := by
  obtain ⟨result, after, sent, sends, told⟩ := @sends_told _ client transport call state
  refine ⟨result, after, sent, sends, told.put, fun request answer member put => ?_⟩
  obtain ⟨device, found, only, joined⟩ := told.target request answer member put
  obtain ⟨web, file⟩ := told.web device found
  obtain ⟨front, path, flat⟩ := base_of_settings accepted web file
  have special : isSpecial client.base.scheme = true ∧ isFile client.base.scheme = false := ⟨isSpecial_of_web web, file⟩
  have resolved := resolve_of_urlOf joined
  obtain ⟨url, given, scheme, authority, _⟩ :=
    @resolve_reference (identifier device).toList call.action.toList client.base front special path ordinary_action
  cases given.symm.trans resolved
  exact ⟨device, found, only, scheme, authority, isEndpoint_iff special path flat ordinary_action resolved⟩

/-- A slash makes two segments of an identifier, dots drop the segment above it, and a question mark ends the path. -/
theorem told_elsewhere :
    let settings : ControllerSettings := { authUri := "http://fabric", dryRun := false }
    let base : Url := ⟨"http".toList, some ⟨[], [], .name "fabric".toList, none⟩, .segments [[]], none, none⟩
    let client : Client := { base, username := "", password := "", dryRun := false, retry := ⟨3, 1000⟩ }
    let transport : Transport (List Delivery) := ⟨fun _ script => (script.headD (.broken "closed"), script.tail)⟩
    let script (id : String) := [
      .answered 200 (some s!"\x7b\"devices\": [\x7b\"id\": \"{id}\"\x7d]\x7d"), .answered 204 (some "")]
    let call : Call := .pushL2 {
      switch := "10.0.0.1", projectId := "p", networkId := "n", routerId := none, vni := ⟨7, by decide, by decide⟩
      vlan := ⟨7, by decide, by decide⟩, interfaces := ["X25"], gateway := none }
    let told (id : String) := ((client.call transport.http.logged call).run.run (script id, [])).2.2.filterMap
      fun (request, _) => if request.method = .put then some request.url else none
    ofSettings settings = .ok client ∧
      (told "a/b").map Url.text = ["http://fabric/v2.0/devices/a/b/neutron_create_network".toList] ∧
      (told "..").map Url.text = ["http://fabric/v2.0/neutron_create_network".toList] ∧
      (told "7?x=").map Url.text = ["http://fabric/v2.0/devices/7?x=/neutron_create_network".toList] ∧
      ∃ url, told "a/b" = [url] ∧ ¬ IsEndpoint base "a/b".toList call.action.toList url := by
  intro settings base client transport script call told
  have read : Url.read "http://fabric".toList = .ok base := by decide +kernel
  have accepted : ofSettings settings = .ok client := by
    unfold ofSettings
    rw [read]
    rfl
  refine ⟨accepted, by decide +kernel, by decide +kernel, by decide +kernel, ?_⟩
  let url : Url := { base with path := .segments ["v2.0".toList, "devices".toList, "a".toList, "b".toList,
    "neutron_create_network".toList] }
  have resolved : base.resolve (reference "a/b".toList call.action.toList) = .ok url := by decide +kernel
  have bent : ¬ Plain "a/b".toList := by decide +kernel
  refine ⟨url, by decide +kernel, fun endpoint => bent ?_⟩
  exact (@isEndpoint_iff _ _ base url [] (by decide) rfl flat_nil ordinary_action resolved).mp endpoint

theorem told_at_endpoint_of_number :
    let settings : ControllerSettings := { authUri := "http://fabric/api?x#y", dryRun := false }
    let client : Client := {
      base := ⟨"http".toList, some ⟨[], [], .name "fabric".toList, none⟩, .segments ["api".toList, []], some "x".toList,
        some "y".toList⟩
      username := "", password := "", dryRun := false, retry := ⟨3, 1000⟩ }
    let transport : Transport (List Delivery) := ⟨fun _ script => (script.headD (.broken "closed"), script.tail)⟩
    let script := [.answered 200 (some "\x7b\"devices\": [\x7b\"id\": 7\x7d]\x7d"), .answered 204 (some "")]
    let call : Call := .pushVrf {
      switch := "10.0.0.1", mode := .create, projectId := "p", networkId := "n", routerId := "r"
      routerVni := ⟨7, by decide, by decide⟩, l2Vni := none, vlan := ⟨7, by decide, by decide⟩
      gateway := none, isExternal := false }
    let taken := ((client.call transport.http.logged call).run.run (script, [])).2.2
    ofSettings settings = .ok client ∧ Plain (identifier (.int 7)).toList ∧
      taken.map (fun (request, _) => request.url.text) = ["http://fabric/api/v2.0/devices?ip_address=10.0.0.1".toList,
        "http://fabric/api/v2.0/devices/7/neutron_create_router".toList] ∧
      ∃ result after sent,
        Sends (client.call transport.http call) (client.call transport.http.logged call) script result after sent ∧
        (∀ device, Found sent device → ∃ request answer, (request, answer) ∈ sent ∧ request.method = .put) ∧
        ∀ request answer, (request, answer) ∈ sent → request.method = .put → ∃ device, Found sent device ∧
          (∀ other, Found sent other → other = device) ∧
          request.url.scheme = client.base.scheme ∧ request.url.authority = client.base.authority ∧
          (IsEndpoint client.base (identifier device).toList call.action.toList request.url ↔
            Plain (identifier device).toList) := by
  intro settings client transport script call taken
  have read : Url.read "http://fabric/api?x#y".toList = .ok ⟨"http".toList, some ⟨[], [], .name "fabric".toList, none⟩,
      .segments ["api".toList], some "x".toList, some "y".toList⟩ := by decide +kernel
  have accepted : ofSettings settings = .ok client := by
    unfold ofSettings
    rw [read]
    rfl
  exact ⟨accepted, by decide +kernel, by decide +kernel, told_at_endpoint_iff_plain accepted⟩

end OverlayFabric.Client
