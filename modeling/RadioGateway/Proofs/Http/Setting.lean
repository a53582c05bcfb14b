import RadioGateway.Http.Gateway

/-!
# What the web interface does to the networks

A request acts on a network only if it sets attributes on a node of the Z-Wave network and is told
so. Whatever else is asked, and whatever is refused, leaves both networks as they are. To get a node
and to set attributes on it meet the same refusals.
-/

namespace RadioGateway

open RadioGateway.Link

namespace ZWave.Network

theorem set_of_refused {network : Network} {now : Nat} {node : UInt32} {attributes : Attributes}
    (refused : (network.set now node attributes).1 = false) :
    (network.set now node attributes).2 = network := by
  unfold set at refused ⊢
  split at refused
  · rfl
  · cases refused

/-- To set attributes on a node and to ask for its state find the same nodes. -/
theorem set_eq_describe (network : Network) (now : Nat) (node : UInt32)
    (attributes known : Attributes) :
    (network.set now node attributes).1 = (network.describe node known).1 := by
  unfold set describe
  cases network.directory.find? node.toNat with
  | none => rfl
  | some found => cases discovered : found.isDiscovered <;> simp [Option.filter, discovered]

end ZWave.Network

namespace Http

section Serving

variable {σ : Type} {request : Request} {node : UInt32}

/-- The network behind an endpoint, if queries still reach it. -/
def Endpoint.network? (endpoint : Option (Endpoint σ)) : Option σ :=
  (endpoint.filter Endpoint.reachable).map Endpoint.network

theorem Endpoint.network?_eq_some {endpoint : Option (Endpoint σ)} {network : σ} :
    Endpoint.network? endpoint = some network ↔ endpoint = some ⟨network, true⟩ := by
  constructor
  · intro found
    obtain ⟨there, kept, rfl⟩ := Option.map_eq_some_iff.mp found
    obtain ⟨rfl, reachable⟩ := Option.filter_eq_some_iff.mp kept
    rw [← reachable]
  · rintro rfl
    rfl

variable [Network σ]

theorem ask_of_network? {endpoint : Option (Endpoint σ)} (now : Nat) (query : Query) :
    ask now query endpoint =
      match Endpoint.network? endpoint with
      | some network =>
          (some (query.apply now network).1, some ⟨(query.apply now network).2, true⟩)
      | none => (none, endpoint) := by
  cases endpoint with
  | none => rfl
  | some endpoint =>
      obtain ⟨network, reachable⟩ := endpoint
      cases reachable <;> rfl

theorem ask_get (now : Nat) (endpoint : Option (Endpoint σ)) :
    (ask now (.get node) endpoint).2 = endpoint := by
  rw [ask_of_network?]
  split
  · rename_i network found
    exact (Endpoint.network?_eq_some.mp found).symm
  · rfl

/-- A request leaves the endpoint as it is and is no successful post, or it is a post that has been
put to a network. -/
theorem serve_cases (now : Nat) (request : Request) (number : Option UInt32)
    (endpoint : Option (Endpoint σ)) :
    ((serve now request number endpoint).2 = endpoint ∧
      ¬ (request.method = .post ∧ (serve now request number endpoint).1.status = 200)) ∨
    request.method = .post ∧ ∃ node network, number = some node ∧
      endpoint = some ⟨network, true⟩ ∧
      serve now request number endpoint =
        (replyOf (some (.applied (Network.set now node request.target.attributes network).1)),
          some ⟨(Network.set now node request.target.attributes network).2, true⟩) := by
  unfold serve
  cases number with
  | none =>
      refine .inl ?_
      split
      · exact ⟨rfl, fun posted => absurd posted.2 (by simp [Reply.status])⟩
      · exact ⟨rfl, fun posted => absurd posted.2 (by simp [Reply.status])⟩
  | some node =>
      cases method : request.method with
      | get => exact .inl ⟨ask_get now endpoint, fun posted => nomatch posted.1⟩
      | head => exact .inl ⟨ask_get now endpoint, fun posted => nomatch posted.1⟩
      | other => exact .inl ⟨rfl, fun posted => nomatch posted.1⟩
      | post =>
          simp only [Option.bind_some, query?, reduceCtorEq, if_false, ask_of_network?, true_and]
          cases found : Endpoint.network? endpoint with
          | none => exact .inl ⟨rfl, by simp [replyOf, Reply.status]⟩
          | some network =>
              exact .inr ⟨node, network, rfl, Endpoint.network?_eq_some.mp found, rfl⟩

/-- The status under which a request about a node is answered: whether the network has the node, if
the network is there at all. -/
def statusOf : Option Bool → Nat
  | some true => 200
  | some false => 404
  | none => 503

theorem statusOf_mem (verdict : Option Bool) : statusOf verdict ∈ [200, 404, 503] := by
  match verdict with
  | some true => decide
  | some false => decide
  | none => decide

theorem status_serve_get (asked : request.method = .get) (now : Nat)
    (endpoint : Option (Endpoint σ)) :
    (serve now request (some node) endpoint).1.status =
      statusOf ((Endpoint.network? endpoint).map fun network =>
        (Network.describe network node .empty).1) := by
  simp only [serve, asked, reduceCtorEq, if_false, Option.bind_some, query?, ask_of_network?]
  cases Endpoint.network? endpoint with
  | none => rfl
  | some network =>
      cases found : (Network.describe network node .empty).1 <;>
        simp [Query.apply, found, replyOf, Reply.status, statusOf]

theorem status_serve_post (asked : request.method = .post) (now : Nat)
    (endpoint : Option (Endpoint σ)) :
    (serve now request (some node) endpoint).1.status =
      statusOf ((Endpoint.network? endpoint).map fun network =>
        (Network.set now node request.target.attributes network).1) := by
  simp only [serve, asked, reduceCtorEq, if_false, Option.bind_some, query?, ask_of_network?]
  cases Endpoint.network? endpoint with
  | none => rfl
  | some network =>
      cases found : (Network.set now node request.target.attributes network).1 <;>
        simp [Query.apply, found, replyOf, Reply.status, statusOf]

end Serving

/-! ## A request to the gateway -/

namespace Gateway

variable {gateway : Gateway} {now : Nat} {request : Request}

/-- Whether a request asks for a change and is told that it has been made. -/
def Accepts (gateway : Gateway) (now : Nat) (request : Request) : Prop :=
  request.method = .post ∧ (gateway.reply now request).1.status = 200

instance (gateway : Gateway) (now : Nat) (request : Request) :
    Decidable (gateway.Accepts now request) := inferInstanceAs (Decidable (_ ∧ _))

theorem reply_of_missing (missing : Resource.find? request.target = none) :
    gateway.reply now request = (.refused .notFound, gateway) := by
  rw [reply, missing]

theorem reply_zwave {segment : String}
    (found : Resource.find? request.target = some (.zwave segment)) :
    gateway.reply now request =
      ((serve now request (nodeNumber? 10 segment) gateway.zwave).1,
        { gateway with zwave := (serve now request (nodeNumber? 10 segment) gateway.zwave).2 }) := by
  rw [reply, found]

theorem reply_enocean {segment : String}
    (found : Resource.find? request.target = some (.enocean segment)) :
    gateway.reply now request =
      ((serve now request (nodeNumber? 16 segment) gateway.enocean).1,
        { gateway with
          enocean := (serve now request (nodeNumber? 16 segment) gateway.enocean).2 }) := by
  rw [reply, found]

/-- The radio network takes no settings. -/
theorem reply_of_enocean {segment : String}
    (found : Resource.find? request.target = some (.enocean segment)) :
    (gateway.reply now request).2 = gateway ∧ ¬ gateway.Accepts now request := by
  unfold Accepts
  rw [reply_enocean found]
  rcases serve_cases now request (nodeNumber? 16 segment) gateway.enocean with
    ⟨kept, quiet⟩ | ⟨_, node, network, _, there, served⟩
  · exact ⟨by rw [kept], quiet⟩
  · have same : { gateway with enocean := some ⟨network, true⟩ } = gateway := by rw [← there]
    rw [served]
    exact ⟨same, fun posted => absurd posted.2 (show ¬ 404 = 200 by decide)⟩

theorem reply_of_not_accepts (refused : ¬ gateway.Accepts now request) :
    (gateway.reply now request).2 = gateway := by
  unfold Accepts at refused
  match found : Resource.find? request.target with
  | none => rw [reply_of_missing found]
  | some (.enocean segment) => exact (reply_of_enocean found).1
  | some (.zwave segment) =>
      rw [reply_zwave found] at refused ⊢
      rcases serve_cases now request (nodeNumber? 10 segment) gateway.zwave with
        ⟨kept, _⟩ | ⟨posted, node, network, _, there, served⟩
      · rw [kept]
      · rw [served] at refused ⊢
        have unknown : (network.set now node request.target.attributes).1 = false := by
          cases verdict : (network.set now node request.target.attributes).1 with
          | false => rfl
          | true =>
              refine absurd ⟨posted, ?_⟩ refused
              have same : (Network.set now node request.target.attributes network).1 = true :=
                verdict
              rw [same]
              rfl
        have unchanged : (Network.set now node request.target.attributes network).2 = network :=
          ZWave.Network.set_of_refused unknown
        rw [unchanged, ← there]

/-- What is accepted has been put to the Z-Wave network and does there what setting the attributes
does. -/
theorem reply_of_accepts (accepted : gateway.Accepts now request) :
    ∃ segment node network, Resource.find? request.target = some (.zwave segment) ∧
      nodeNumber? 10 segment = some node ∧ gateway.zwave = some ⟨network, true⟩ ∧
      (network.set now node request.target.attributes).1 = true ∧
      (gateway.reply now request).2 =
        { gateway with
          zwave := some ⟨(network.set now node request.target.attributes).2, true⟩ } := by
  match found : Resource.find? request.target with
  | none =>
      have status := accepted.2
      rw [reply_of_missing found] at status
      cases status
  | some (.enocean segment) => exact absurd accepted (reply_of_enocean found).2
  | some (.zwave segment) =>
      unfold Accepts at accepted
      rw [reply_zwave found] at accepted ⊢
      rcases serve_cases now request (nodeNumber? 10 segment) gateway.zwave with
        ⟨_, quiet⟩ | ⟨_, node, network, number, there, served⟩
      · exact absurd accepted quiet
      · rw [served] at accepted ⊢
        refine ⟨segment, node, network, rfl, number, there, ?_, rfl⟩
        show (Network.set now node request.target.attributes network).1 = true
        cases verdict : (Network.set now node request.target.attributes network).1 with
        | true => rfl
        | false =>
            rw [verdict] at accepted
            exact absurd accepted.2 (show ¬ 404 = 200 by decide)

/-! ## Requests one after the other -/

def follow (gateway : Gateway) (requests : List (Nat × Request)) : Gateway :=
  requests.foldl (fun gateway arrival => (gateway.reply arrival.1 arrival.2).2) gateway

end Gateway

structure Setting where
  now : Nat
  node : UInt32
  attributes : Attributes
  deriving DecidableEq, Repr

def Setting.apply (network : ZWave.Network) (setting : Setting) : ZWave.Network :=
  (network.set setting.now setting.node setting.attributes).2

namespace Gateway

/-- The setting that a request makes, if it is accepted. -/
def setting? (gateway : Gateway) (now : Nat) (request : Request) : Option Setting :=
  if gateway.Accepts now request then
    match Resource.find? request.target with
    | some (.zwave segment) =>
        (nodeNumber? 10 segment).map (⟨now, ·, request.target.attributes⟩)
    | _ => none
  else none

def settings (gateway : Gateway) : List (Nat × Request) → List Setting
  | [] => []
  | (now, request) :: later =>
      (gateway.setting? now request).toList ++ (gateway.reply now request).2.settings later

def apply (gateway : Gateway) (settings : List Setting) : Gateway :=
  { gateway with
    zwave := gateway.zwave.map fun endpoint =>
      { endpoint with network := settings.foldl Setting.apply endpoint.network } }

theorem apply_nil (gateway : Gateway) : gateway.apply [] = gateway := by
  obtain ⟨zwave, enocean⟩ := gateway
  cases zwave <;> rfl

theorem apply_append (gateway : Gateway) (first second : List Setting) :
    gateway.apply (first ++ second) = (gateway.apply first).apply second := by
  obtain ⟨zwave, enocean⟩ := gateway
  cases zwave with
  | none => rfl
  | some endpoint => simp [apply]

/-- A request does to the gateway what its setting does. -/
theorem reply_eq_apply (gateway : Gateway) (now : Nat) (request : Request) :
    (gateway.reply now request).2 = gateway.apply (gateway.setting? now request).toList := by
  by_cases accepted : gateway.Accepts now request
  · obtain ⟨segment, node, network, found, number, there, _, after⟩ := reply_of_accepts accepted
    rw [after, setting?, if_pos accepted, found]
    simp [number, apply, there, Setting.apply]
  · rw [reply_of_not_accepts accepted, setting?, if_neg accepted]
    exact (apply_nil gateway).symm

theorem follow_eq_apply (gateway : Gateway) (requests : List (Nat × Request)) :
    gateway.follow requests = gateway.apply (gateway.settings requests) := by
  induction requests generalizing gateway with
  | nil => exact (apply_nil gateway).symm
  | cons arrival later ih =>
      obtain ⟨now, request⟩ := arrival
      rw [settings, apply_append, ← reply_eq_apply, ← ih]
      rfl

/-- To get a node of the Z-Wave network and to post to it meet the same obstacles: the network is
out of reach, or it has no such node. -/
theorem status_get_eq_status_post {asking posting : Request} {first second : String} {node : UInt32}
    (asks : asking.method = .get) (posts : posting.method = .post)
    (asked : Resource.find? asking.target = some (.zwave first))
    (posted : Resource.find? posting.target = some (.zwave second))
    (named : nodeNumber? 10 first = some node) (also : nodeNumber? 10 second = some node)
    (gateway : Gateway) (now later : Nat) :
    (gateway.reply now asking).1.status = (gateway.reply later posting).1.status ∧
      (gateway.reply now asking).1.status ∈ [200, 404, 503] := by
  have same (network : ZWave.Network) :
      (Network.describe network node .empty).1 =
        (Network.set later node posting.target.attributes network).1 :=
    (ZWave.Network.set_eq_describe network later node posting.target.attributes .empty).symm
  rw [reply_zwave asked, reply_zwave posted, named, also]
  refine ⟨?_, ?_⟩
  · rw [status_serve_get asks, status_serve_post posts]
    simp only [same]
  · rw [status_serve_get asks]
    exact statusOf_mem _

/-- Nothing but accepted settings has an effect. A request that is not accepted leaves the gateway
as it is; one that is accepted names a node that the Z-Wave network has, and does there what setting
the attributes in its query does. A request about a radio device does nothing and is never accepted.
Getting a node and posting to it are answered under the same status. Whatever the requests, one
after the other they do what their settings do. -/
theorem acts_through_settings (gateway : Gateway) :
    (∀ now request, ¬ gateway.Accepts now request → (gateway.reply now request).2 = gateway) ∧
    (∀ now request, gateway.Accepts now request →
      ∃ segment node network, Resource.find? request.target = some (.zwave segment) ∧
        nodeNumber? 10 segment = some node ∧ gateway.zwave = some ⟨network, true⟩ ∧
        (network.set now node request.target.attributes).1 = true ∧
        (gateway.reply now request).2 =
          { gateway with
            zwave := some ⟨(network.set now node request.target.attributes).2, true⟩ }) ∧
    (∀ now request segment, Resource.find? request.target = some (.enocean segment) →
      (gateway.reply now request).2 = gateway ∧ ¬ gateway.Accepts now request) ∧
    (∀ now later asking posting first second node, asking.method = .get →
      posting.method = .post → Resource.find? asking.target = some (.zwave first) →
      Resource.find? posting.target = some (.zwave second) →
      nodeNumber? 10 first = some node → nodeNumber? 10 second = some node →
      (gateway.reply now asking).1.status = (gateway.reply later posting).1.status ∧
        (gateway.reply now asking).1.status ∈ [200, 404, 503]) ∧
    ∀ requests, gateway.follow requests = gateway.apply (gateway.settings requests) := by
  refine ⟨fun _ _ => reply_of_not_accepts, fun _ _ => reply_of_accepts,
    fun _ _ _ => reply_of_enocean, ?_, follow_eq_apply gateway⟩
  intro now later asking posting first second node asks posts asked posted named also
  exact status_get_eq_status_post asks posts asked posted named also gateway now later

/-- A gateway with both networks, to whose Z-Wave network node 5 has announced itself as a device
with a level. -/
def announced : Gateway where
  zwave := some ⟨(ZWave.Network.start 0 {}).receive 0
    [1, 11, 0, 73, 132, 5, 5, 4, 17, 6, 32, 112, 122], true⟩
  enocean := some ⟨{ session := {} }, true⟩

def switchOn (segments : List String) : Request := ⟨.post, ⟨segments, "state=on"⟩⟩

/-- A post to node 5 is accepted, one to node 6 or to a radio device is not and does nothing, and a
get finds the same node. -/
theorem acts_through_settings_announced :
    announced.Accepts 7 (switchOn ["node", "5"]) ∧
      (announced.reply 7 (switchOn ["node", "6"])).2 = announced ∧
      (announced.reply 7 (switchOn ["enocean", "5"])).2 = announced ∧
      (announced.reply 7 ⟨.get, ⟨["node", "05"], ""⟩⟩).1.status = 200 ∧
      announced.follow [(7, switchOn ["node", "5"]), (8, switchOn ["node", "6"])] =
        announced.apply [⟨7, 5, .ofList [("state", "on")]⟩] := by
  obtain ⟨refused, _, radio, alike, follow⟩ := acts_through_settings announced
  have accepted : announced.Accepts 7 (switchOn ["node", "5"]) := by decide +kernel
  have settings : announced.settings [(7, switchOn ["node", "5"]), (8, switchOn ["node", "6"])] =
      [⟨7, 5, .ofList [("state", "on")]⟩] := by decide +kernel
  refine ⟨accepted, refused 7 _ (by decide +kernel), (radio 7 _ "5" (by decide)).1, ?_, ?_⟩
  · rw [(alike 7 7 _ (switchOn ["node", "5"]) "05" "5" 5 rfl rfl (by decide) (by decide)
      (by decide +kernel) (by decide +kernel)).1]
    exact accepted.2
  · rw [follow, settings]

end Gateway

end Http

end RadioGateway
