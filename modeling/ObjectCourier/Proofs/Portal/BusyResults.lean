import ObjectCourier.Business.Customers
import ObjectCourier.Proofs.Portal.Failing

/-!
Busy results. A result that is busy when data access code returns it never passes the check at the
host. Behind a loopback the check is made on a copy of the result. A copy keeps the marks of its
source, so that a busy node is found out there as well, but not its loads: a customer that is busy
because of its loads comes back as an idle one, and the request ends well.
-/

namespace ObjectCourier

section Places

variable {host : Host} {handler : Handler} {demand : Demand} {context : Context} {world : World}
  {node : Node} {store : Store} {dispatcher : Dispatcher} {packer answerer : Compressor}

/-- On a copy of the target data access code returns this object, whatever has been written down, and
leaves the objects like this. -/
def Handler.Returns (handler : Handler) (formatter : Formatter) (demand : Demand)
    (context : Context) (world : World) (node : Node) (store : Store) : Prop :=
  ∃ object copied, demand.object.mapM formatter.copy world = (.ok object, copied) ∧
    ∀ entered : World, entered.quiet = copied.quiet → ∃ ended,
      handler.run demand.operation demand.criteria object context.enterServer entered =
        (.ok (some node), ended) ∧ ended.store = store

theorem Handler.Returns.typeKey (found : host.handler? demand.typeKey = some handler)
    (returns : handler.Returns host.formatter demand context world node store) :
    node.typeKey = demand.typeKey := by
  rcases returns with ⟨object, copied, -, returning⟩
  obtain ⟨ended, ran, -⟩ := returning copied rfl
  exact host.typeKey_of_run found ran node rfl

/-- At the host the result itself is checked. -/
theorem Dispatcher.WorksAt.returns (works : dispatcher.WorksAt host)
    (valid : demand.validate world.store = .ok ())
    (allowed : dispatcher.authorizer demand.operation demand.typeKey context.principal = true)
    (found : host.handler? demand.typeKey = some handler)
    (returns : handler.Returns host.formatter demand context world node store) :
    (dispatcher.dispatchIn context demand world).1 =
      if store.isBusy node then .error (.busyResult demand.operation demand.typeKey)
      else .ok (some node) := by
  have typeKey := returns.typeKey found
  rcases returns with ⟨object, copied, copy, returning⟩
  obtain ⟨entered, same, ends⟩ := works.ends valid allowed copy
  obtain ⟨ended, ran, rfl⟩ := returning entered same
  rw [← host.execute_eq found] at ran
  rw [ends _ _ ran]
  exact demand.checkResult_eq ended.store typeKey

namespace Dispatcher.LoopsTo

/-- Behind a loopback a copy of the result is checked, which is busy when its source is marked so. -/
theorem returns {payload : Payload} (loops : dispatcher.LoopsTo host packer answerer)
    (valid : demand.validate world.store = .ok ())
    (allowed : dispatcher.authorizer demand.operation demand.typeKey context.principal = true)
    (found : host.handler? demand.typeKey = some handler)
    (requestFits : ∀ sent, world.store.payload? host.formatter.registry.policy demand.object =
      .ok sent → packer.Fits (Codec.request.encode (demand.request sent context)))
    (responseFits : answerer.Fits (Codec.response.encode (.object payload)))
    (returns : handler.Returns host.formatter demand context world node store)
    (typed : store.WellTyped)
    (written : (store.serialize host.formatter.registry.policy node).1 = .ok payload) :
    ∃ copy : Node, copy.type = node.type ∧
      (dispatcher.dispatchIn context demand world).2.store.isBusy copy =
        (node.type.marksBusy && store.isBusy node) ∧
      (dispatcher.dispatchIn context demand world).1 =
        if (dispatcher.dispatchIn context demand world).2.store.isBusy copy then
          .error (.busyResult demand.operation demand.typeKey)
        else .ok (some copy) := by
  have typeKey := returns.typeKey found
  rcases returns with ⟨object, copied, copy, returning⟩
  rw [Formatter.mapM_copy] at copy
  obtain ⟨sent, between, serialized, deserialized⟩ := exists_of_bind_ran copy
  obtain ⟨begun, same, answers⟩ := loops.sends valid allowed
    (requestFits sent (Store.payload?_of_ran serialized)) serialized
  obtain ⟨entered, rebuilt, here⟩ :=
    (Act.Blind.mapM host.formatter.deserialize_blind sent).again deserialized begun same
  obtain ⟨ended, ran, rfl⟩ := returning entered here
  rw [← host.execute_eq found] at ran
  -- The host writes the result.
  have answer := host.formatter.serialize_run node ended
  rw [written] at answer
  have answered : (some node).mapM host.formatter.serialize ended = (.ok (some payload), _) :=
    mapM_some_of_ran answer
  obtain ⟨-, responds⟩ := answers (.ok (.object payload)) _
    (Host.runRequest_ran rebuilt ran answered)
  obtain ⟨bytes, read, ends⟩ := responds _ rfl responseFits
  -- The dispatcher reads it back.
  obtain ⟨plan, order, place, after, readBack, built, walkable, back⟩ :=
    Store.rebuilt_of_serialize (fun _ _ => typed.resolves) written ended.store
  rw [← loops.registry] at readBack
  let received := (ended.note (ended.store.serialize host.formatter.registry.policy node).2).note
    [.advanced demand.operation demand.typeKey .remoteRoundTrip .serializingIn]
  have decoded : dispatcher.decodeResponse demand (.ok bytes) received =
      (.ok (some (node.moved place)), { received with store := after }.note
        [.rebuilt plan.objects.length plan.root]) := by
    rw [decodeResponse_ended, show dispatcher.response (.ok bytes) = _ from read]
    exact mapM_some_of_ran (Formatter.deserialize_run readBack built)
  refine ⟨node.moved place, rfl, ?_, ?_⟩
  · rw [ends _ _ decoded]
    exact back.isBusy_eq walkable.root_mem
  · rw [ends _ _ decoded]
    exact demand.checkResult_eq after typeKey

private theorem returns_unwritten {fault : Fault} (loops : dispatcher.LoopsTo host packer answerer)
    (valid : demand.validate world.store = .ok ())
    (allowed : dispatcher.authorizer demand.operation demand.typeKey context.principal = true)
    (found : host.handler? demand.typeKey = some handler)
    (requestFits : ∀ sent, world.store.payload? host.formatter.registry.policy demand.object =
      .ok sent → packer.Fits (Codec.request.encode (demand.request sent context)))
    (responseFits : answerer.Fits
      (Codec.response.encode (.ofFault (fault.whileRunning demand.operation))))
    (returns : handler.Returns host.formatter demand context world node store)
    (unwritten : (store.serialize host.formatter.registry.policy node).1 = .error fault) :
    (dispatcher.dispatchIn context demand world).1 =
      .error ((fault.whileRunning demand.operation).under demand.operation) := by
  rcases returns with ⟨object, copied, copy, returning⟩
  rw [Formatter.mapM_copy] at copy
  obtain ⟨sent, between, serialized, deserialized⟩ := exists_of_bind_ran copy
  refine loops.reports valid allowed (requestFits sent (Store.payload?_of_ran serialized))
    responseFits serialized fun begun same => ?_
  obtain ⟨entered, rebuilt, here⟩ :=
    (Act.Blind.mapM host.formatter.deserialize_blind sent).again deserialized begun same
  obtain ⟨ended, ran, rfl⟩ := returning entered here
  rw [← host.execute_eq found] at ran
  rw [Host.runRequest_served rebuilt ran, mapM_some_run, Formatter.serialize_run, unwritten]
  rfl

end Dispatcher.LoopsTo

/-- Where data access code returns a busy object, the request fails at the host for that. Behind a
loopback it fails as well, with the same fault, when the result is marked busy, and as a failure of the
operation when the result cannot be written. A result that is busy for its loads only is returned as
an idle copy. -/
theorem Dispatcher.busy_at_either_place {here remote : Dispatcher} (works : here.WorksAt host)
    (loops : remote.LoopsTo host packer answerer) (valid : demand.validate world.store = .ok ())
    (allowedHere : here.authorizer demand.operation demand.typeKey context.principal = true)
    (allowedRemote : remote.authorizer demand.operation demand.typeKey context.principal = true)
    (found : host.handler? demand.typeKey = some handler)
    (requestFits : ∀ sent, world.store.payload? host.formatter.registry.policy demand.object =
      .ok sent → packer.Fits (Codec.request.encode (demand.request sent context)))
    (returns : handler.Returns host.formatter demand context world node store)
    (busy : store.isBusy node = true) (typed : store.WellTyped) :
    (here.dispatchIn context demand world).1 =
      .error (.busyResult demand.operation demand.typeKey) ∧
    (∀ payload, (store.serialize host.formatter.registry.policy node).1 = .ok payload →
      answerer.Fits (Codec.response.encode (.object payload)) →
        if node.type.marksBusy then
          (remote.dispatchIn context demand world).1 =
            .error (.busyResult demand.operation demand.typeKey)
        else
          ∃ copy : Node, copy.type = node.type ∧
            (remote.dispatchIn context demand world).1 = .ok (some copy) ∧
            (remote.dispatchIn context demand world).2.store.isBusy copy = false) ∧
    ∀ fault, (store.serialize host.formatter.registry.policy node).1 = .error fault →
      answerer.Fits (Codec.response.encode (.ofFault (fault.whileRunning demand.operation))) →
        (remote.dispatchIn context demand world).1 =
          .error ((fault.whileRunning demand.operation).under demand.operation) := by
  refine ⟨?_, fun payload written responseFits => ?_, fun fault unwritten responseFits => ?_⟩
  · rw [works.returns valid allowedHere found returns, if_pos busy]
  · obtain ⟨copy, type, marked, ended⟩ := loops.returns valid allowedRemote found requestFits
      responseFits returns typed written
    rw [busy, Bool.and_true] at marked
    rw [marked] at ended
    split
    · rename_i marks
      rwa [if_pos marks] at ended
    · rename_i unmarked
      rw [if_neg unmarked] at ended
      exact ⟨copy, type, ended, marked.trans (eq_false_of_ne_true unmarked)⟩
  · exact loops.returns_unwritten valid allowedRemote found requestFits responseFits returns
      unwritten

end Places

def Handler.loadingCustomers : Handler where
  type := .record .customer
  access :=
    { fetch := fun _ _ => do
        let data ← Act.onStore (Business.newCustomer "Ada" ⟨0⟩ false)
        let _ ← beginLoad "Total" (some data.loads)
        return data }

def Host.loadingCustomers : Host where
  formatter := { registry := { types := [.record .customer, .record .contact, .list .contact] } }
  handlers := [.loadingCustomers]

def Demand.fetchCustomer : Demand where
  operation := .fetch
  typeKey := (ObjectCourier.ObjType.record .customer).key
  criteria := some {}

def Store.loadingCustomer : Store where
  cells := #[
    { type := .list .contact, data := [] },
    { type := .record .customer
      data := (Business.filled false "Name" "Ada", (⟨0⟩ : Binary64),
        Business.filled true "Contacts" (⟨0⟩ : Ref), (none : Option Ref), false,
        (⟨0⟩ : CounterId), ()) }]
  counters := #[1]

def Node.loadingCustomer : Node := { type := .record .customer, ref := ⟨1⟩ }

private theorem Store.loadingCustomer_wellTyped : loadingCustomer.WellTyped := by
  intro ref cell present child member
  match ref with
  | ⟨0⟩ =>
      cases present
      cases member
  | ⟨1⟩ =>
      cases present
      cases List.mem_singleton.mp member
      exact ⟨_, rfl, rfl⟩
  | ⟨_ + 2⟩ => cases present

private theorem Handler.loadingCustomers_returns :
    loadingCustomers.Returns Host.loadingCustomers.formatter .fetchCustomer {} {} .loadingCustomer
      .loadingCustomer := by
  refine ⟨none, {}, rfl, ?_⟩
  rintro ⟨_, _, _, _, log, calls, _⟩ ⟨⟩
  exact ⟨_, rfl, rfl⟩

private theorem Demand.fetchCustomer_fits {sent : Option Payload}
    (written : Store.payload? {} Host.loadingCustomers.formatter.registry.policy
      fetchCustomer.object = .ok sent) :
    Compressor.none.Fits (Codec.request.encode (fetchCustomer.request sent {})) := by
  cases written
  exact Compressor.none_fits (by decide +kernel)

private theorem Store.loadingCustomer_written : ∃ payload,
    (loadingCustomer.serialize Host.loadingCustomers.formatter.registry.policy
      .loadingCustomer).1 = .ok payload ∧
        Compressor.none.Fits (Codec.response.encode (.object payload)) :=
  ⟨_, rfl, Compressor.none_fits (by decide +kernel)⟩

/-- The customer that is loading is refused at the host and returned behind the loopback. -/
theorem Dispatcher.busy_at_either_place_customers :
    ((ofHost .here .loadingCustomers).dispatchIn {} .fetchCustomer {}).1 =
      .error (.busyResult .fetch (ObjectCourier.ObjType.record .customer).key) ∧
    ∃ copy : Node, copy.type = .record .customer ∧
      ((ofHost .remote .loadingCustomers).dispatchIn {} .fetchCustomer {}).1 = .ok (some copy) ∧
      ((ofHost .remote .loadingCustomers).dispatchIn {} .fetchCustomer {}).2.store.isBusy copy =
        false := by
  obtain ⟨payload, written, responseFits⟩ := Store.loadingCustomer_written
  obtain ⟨refused, returned, -⟩ := busy_at_either_place (worksAt_ofHost .loadingCustomers)
    (loopsTo_ofHost rfl) rfl rfl rfl rfl (fun _ => Demand.fetchCustomer_fits)
    Handler.loadingCustomers_returns rfl Store.loadingCustomer_wellTyped
  exact ⟨refused, returned payload written responseFits⟩

/-- A busy customer is returned from behind the loopback. -/
theorem Dispatcher.returns_busy_customer :
    Store.loadingCustomer.isBusy .loadingCustomer = true ∧
    Handler.loadingCustomers.Returns Host.loadingCustomers.formatter .fetchCustomer {} {}
      .loadingCustomer .loadingCustomer ∧
    ((ofHost .remote .loadingCustomers).dispatchIn {} .fetchCustomer {}).1.isOk = true := by
  obtain ⟨payload, written, responseFits⟩ := Store.loadingCustomer_written
  have loops : (ofHost .remote .loadingCustomers).LoopsTo .loadingCustomers .none .none :=
    loopsTo_ofHost rfl
  obtain ⟨copy, -, marked, ended⟩ := loops.returns rfl rfl rfl
    (fun _ => Demand.fetchCustomer_fits) responseFits Handler.loadingCustomers_returns
    Store.loadingCustomer_wellTyped written
  have idle := marked.trans (Bool.false_and _)
  rw [idle] at ended
  refine ⟨rfl, Handler.loadingCustomers_returns, ?_⟩
  rw [ended]
  rfl

end ObjectCourier
