import ObjectCourier.Portal.Envelope
import ObjectCourier.Proofs.Codec.Wire

/-!
Requests and responses are read back as they are written. A dictionary is written in the order of
its names, and putting its entries back one by one gives the same dictionary again.
-/

namespace ObjectCourier

open Decoder

namespace Dictionary

variable {α : Type}

private theorem insertEntry_last {name : String} {value : α} {entries : List (String × α)}
    (last : ∀ entry ∈ entries, entry.1 < name) :
    insertEntry name value entries = entries ++ [(name, value)] := by
  induction entries with
  | nil => rfl
  | cons first others ih =>
      obtain ⟨other, old⟩ := first
      have before : other < name := last (other, old) List.mem_cons_self
      have later : ¬name < other := String.lt_asymm before
      have different : ¬name = other := fun same => String.lt_irrefl other (same ▸ before)
      rw [insertEntry, if_neg later, if_neg different,
        ih fun entry member => last entry (List.mem_cons_of_mem _ member), List.cons_append]

private theorem entries_foldl_insert (dictionary : Dictionary α) (added : List (String × α))
    (sorted : (dictionary.entries ++ added).Pairwise fun left right => left.1 < right.1) :
    (added.foldl (fun dictionary entry => dictionary.insert entry.1 entry.2) dictionary).entries =
      dictionary.entries ++ added := by
  induction added generalizing dictionary with
  | nil => simp
  | cons first others ih =>
      have last : ∀ entry ∈ dictionary.entries, entry.1 < first.1 := fun entry member =>
        (List.pairwise_append.mp sorted).2.2 entry member first List.mem_cons_self
      have grown : (dictionary.insert first.1 first.2).entries = dictionary.entries ++ [first] :=
        insertEntry_last last
      rw [List.foldl_cons, ih _ (by rw [grown, List.append_assoc]; exact sorted), grown,
        List.append_assoc, List.singleton_append]

private theorem ofList_entries (dictionary : Dictionary α) :
    ofList dictionary.entries = dictionary := by
  have same : (ofList dictionary.entries).entries = dictionary.entries := by
    have whole := entries_foldl_insert empty dictionary.entries dictionary.sorted
    exact whole.trans (List.nil_append _)
  cases dictionary
  cases found : ofList _
  rw [found] at same
  subst same
  rfl

end Dictionary

private theorem NameSet.ofList_names (names : NameSet) : NameSet.ofList names.names = names := by
  have same : (names.names.map fun name => (name, ())) = names.entries := by
    rw [Dictionary.names, List.map_map]
    exact List.map_id _
  rw [NameSet.ofList, same]
  exact Dictionary.ofList_entries names

namespace Codec

private theorem dictionary_faithful {α : Type} {value : Codec α} (faithful : value.Faithful) :
    (dictionary value).Faithful :=
  map_faithful (list_faithful (pair_faithful text_faithful faithful) (pair_visible text_visible))
    Dictionary.ofList_entries

private theorem nameSet_faithful : nameSet.Faithful :=
  map_faithful (list_faithful text_faithful text_visible) NameSet.ofList_names

private theorem principal_faithful : principal.Faithful := by
  intro value fits
  simp only [principal, List.length_append] at fits
  have name := text_faithful value.name (by omega)
  have roles := nameSet_faithful value.roles (by omega)
  have authenticated := bool_faithful value.authenticated (by omega)
  simp only [principal, List.append_assoc]
  refine name.bind (roles.bind ?_)
  exact authenticated.map (fun authenticated =>
    ({ name := value.name, roles := value.roles
       authenticated := authenticated } : Principal))

private theorem location_faithful : location.Faithful := by
  intro value _
  cases value
  · exact (Varint.reads_case 4 0 (by decide)).bind (Reads.pure Location.client)
  · exact (Varint.reads_case 4 1 (by decide)).bind (Reads.pure Location.server)

private theorem context_faithful : context.Faithful := by
  intro value fits
  simp only [context, List.length_append] at fits
  have who := principal_faithful value.principal (by omega)
  have values := dictionary_faithful text_faithful value.values (by omega)
  have culture := option_faithful text_faithful value.culture (by omega)
  have side := location_faithful value.location (by omega)
  simp only [context, List.append_assoc]
  refine who.bind (values.bind (culture.bind ?_))
  exact side.map (fun side =>
    ({ principal := value.principal, values := value.values, culture := value.culture
       location := side } : Context))

private theorem criteria_faithful : criteria.Faithful :=
  map_faithful (list_faithful WireValue.codec_faithful WireValue.encode_visible) fun _ => rfl

private theorem operation_faithful : operation.Faithful := by
  intro value _
  cases value
  · exact (Varint.reads_case 4 0 (by decide)).bind (Reads.pure Operation.create)
  · exact (Varint.reads_case 4 1 (by decide)).bind (Reads.pure Operation.fetch)
  · exact (Varint.reads_case 4 2 (by decide)).bind (Reads.pure Operation.update)
  · exact (Varint.reads_case 4 3 (by decide)).bind (Reads.pure Operation.delete)
  · exact (Varint.reads_case 4 4 (by decide)).bind (Reads.pure Operation.execute)

theorem request_faithful : request.Faithful := by
  intro value fits
  simp only [request, List.length_append] at fits
  have kind := operation_faithful value.operation (by omega)
  have key := text_faithful value.typeKey (by omega)
  have parameters := option_faithful criteria_faithful value.criteria (by omega)
  have object := option_faithful payload_faithful value.object (by omega)
  have origin := context_faithful value.context (by omega)
  simp only [request, List.append_assoc]
  refine kind.bind (key.bind (parameters.bind (object.bind ?_)))
  exact origin.map (fun origin =>
    ({ operation := value.operation, typeKey := value.typeKey, criteria := value.criteria
       object := value.object, context := origin } : Request))

private theorem reads_reasonsWithin (chain : List Reason) {fuel : Nat}
    (enough : chain.length < fuel) (fits : (reasons.encode chain).length < Bytes.limit) :
    (reasonsWithin fuel).Reads (reasons.encode chain) chain := by
  induction chain generalizing fuel with
  | nil =>
      obtain ⟨fuel, rfl⟩ := Nat.exists_eq_succ_of_ne_zero (Nat.ne_of_gt enough)
      exact (reads_byte 0).bind (Reads.pure [])
  | cons first others ih =>
      obtain ⟨fuel, rfl⟩ := Nat.exists_eq_succ_of_ne_zero (Nat.ne_of_gt (Nat.zero_lt_of_lt enough))
      simp only [reasons, List.flatMap_cons, List.length_append, List.length_cons] at fits enough
      have kind := text_faithful first.kind (by omega)
      have message := text_faithful first.message (by omega)
      have rest := @ih fuel (by omega) (by
        simp only [reasons, List.length_append]
        simp only [List.length_cons, List.length_nil] at fits ⊢
        omega)
      simp only [reasons, List.flatMap_cons, List.cons_append, List.append_assoc]
      refine (reads_byte 1).bind (kind.bind (message.bind ?_))
      exact rest.map (fun others => ⟨first.kind, first.message⟩ :: others)

private theorem reasons_faithful : reasons.Faithful := by
  intro chain fits rest
  refine reads_reasonsWithin chain ?_ fits rest
  have count : chain.length ≤ (reasons.encode chain).length := by
    have visible := length_le_flatMap (fun value : Reason =>
      1 :: (text.encode value.kind ++ text.encode value.message)) (fun _ => by simp) chain
    simp only [reasons, List.length_append]
    omega
  rw [List.length_append]
  omega

theorem response_faithful : response.Faithful := by
  intro value fits
  cases value with
  | object result =>
      simp only [response, List.length_cons] at fits
      exact (Varint.reads_case 4 0 (by decide)).bind
        ((payload_faithful result (by omega)).map Response.object)
  | done => exact (Varint.reads_case 4 1 (by decide)).bind (Reads.pure Response.done)
  | failed message why =>
      simp only [response, List.length_cons, List.length_append] at fits
      have text := text_faithful message (by omega)
      have chain := reasons_faithful why (by omega)
      exact (Varint.reads_case 4 2 (by decide)).bind
        (text.bind (chain.map (Response.failed message)))

end Codec

end ObjectCourier
