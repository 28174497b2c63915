import ObjectCourier.Proofs.Graph.Unrolling

/-!
Handles written by value. A handle to intact objects is refused exactly when a cycle is below it. If
it is written, the tree below it is read back, and planting that adds one new object for every
occurrence of an object in the tree. No attempt leaves anything behind for the next one.
-/

namespace ObjectCourier

open Decoder

/-- Markers and lists of them are the only types with copies that take no byte. -/
theorem ObjType.compact_or (type : ObjType) :
    type.compact = true ∨ type = .record .marker ∨ type = .list .marker := by
  cases type with
  | record type => cases type <;> decide
  | list element => cases element <;> decide

namespace Tree

def width : {depth : Nat} → {type : ObjType} → Tree depth type → Nat
  | 0, _, _ => 0
  | depth + 1, type, tree =>
      (type.shape.handles (show type.Data (.byValue (Tree depth)) from tree)).length

private theorem reads_marker {depth : Nat} (tree : Tree depth (.record .marker)) (budget : Nat) :
    ∃ found, (decode (budget + 1) (.record .marker)).Reads (tree.encode depth (.record .marker))
        found ∧
      Same depth (budget + 1) (.record .marker) tree found := by
  match depth with
  | 0 => exact tree.elim
  | depth + 1 => exact ⟨(), Reads.pure (), trivial⟩

/-- Markers take no bytes, so nothing but their number is told, and it must be one that can be told. -/
theorem reads_markers {depth : Nat} {tree : Tree depth (.list .marker)}
    (few : tree.width < Varint.bound) (budget : Nat) :
    ∃ found, (decode (budget + 2) (.list .marker)).Reads (tree.encode depth (.list .marker)) found ∧
      Same depth (budget + 2) (.list .marker) tree found := by
  match depth with
  | 0 => exact tree.elim
  | depth + 1 =>
      obtain ⟨found, reads, alike⟩ := reads_times_related (decode (budget + 1) (.record .marker))
        (show List (Tree depth (.record .marker)) from tree) fun item _ => reads_marker item budget
      have counted : List.length (show List (Tree depth (.record .marker)) from tree) < Varint.bound := by
        rw [← List.length_map]
        exact few
      exact ⟨found, (Varint.reads_length counted).bind reads, alike⟩

private theorem reads_back {depth budget : Nat} {type : ObjType} {tree : Tree depth type}
    (few : tree.width < Varint.bound) (fits : (tree.encode depth type).length < Bytes.limit)
    (enough : (tree.encode depth type).length < budget) :
    ∃ found, (decode budget type).Reads (tree.encode depth type) found ∧
      Same depth budget type tree found := by
  rcases type.compact_or with compact | rfl | rfl
  · exact reads_encode compact tree fits enough
  · match budget with
    | 0 => exact absurd enough (Nat.not_lt_zero _)
    | budget + 1 => exact reads_marker tree budget
  · have one := encode_visible rfl tree
    match budget with
    | 0 | 1 => omega
    | budget + 2 => exact reads_markers few budget

end Tree

namespace Store

variable {store : Store} {root : Node}

private theorem Unfolds.width_eq {depth : Nat} {type : ObjType} {ref : Ref} {tree : Tree depth type}
    (unfolds : store.Unfolds depth type ref tree) : tree.width = (store.held ⟨type, ref⟩).length := by
  match depth with
  | 0 => exact tree.elim
  | depth + 1 =>
      obtain ⟨-, data, found, alike⟩ := unfolds
      rw [@held_eq store ⟨type, ref⟩ data found, List.length_map]
      exact (Shape.handles_paired alike).length_eq.symm

private theorem ofBlob_written {type : ObjType} {ref : Ref} {body : Bytes}
    (few : (store.held ⟨type, ref⟩).length < Varint.bound) (field : String)
    (written : store.blob type ref = .ok body) :
    ∃ found : Embedded type, (FieldType.handle type).ofBlob field
        (.embedded (FieldType.handle type).typeName body) = .ok found ∧
      store.Unfolds found.depth type ref found.tree := by
  obtain ⟨depth, tree, unfolds, rfl, fits⟩ := blob_eq_ok written
  have enough : (tree.encode depth type).length < (tree.encode depth type ++ []).length + 1 := by
    rw [List.append_nil]
    exact Nat.lt_succ_self _
  obtain ⟨found, decoded, same⟩ := @Embedded.decode_of_reads type ⟨depth, tree⟩ []
    (Tree.reads_back (unfolds.width_eq ▸ few) fits enough)
  rw [List.append_nil] at decoded
  exact ⟨found, FieldType.ofBlob_of_decode field decoded, unfolds.same same⟩

private theorem toBlob_handle (store : Store) (type : ObjType) (ref : Ref) :
    store.toBlob (.handle type) ref =
      (store.blob type ref).map (.embedded (FieldType.handle type).typeName) := by
  unfold toBlob blob
  change (store.embedded type ref >>= _) = Except.map _ (store.embedded type ref >>= _)
  cases store.embedded type ref with
  | error fault => rfl
  | ok copy =>
      change (if Bytes.limit ≤ copy.encode.length then _ else _) =
        Except.map _ (if Bytes.limit ≤ copy.encode.length then _ else _)
      split
      · rfl
      · rfl

private theorem toBlob_cases (typed : store.WellTyped) (leads : store.Leads root)
    (intact : ∀ below, Reaches store.held root below → store.isPoisoned below.ref = false) :
    store.MeetsCycle root ∧ store.toBlob (.handle root.type) root.ref = .error .embeddingCycle ∨
      ¬store.MeetsCycle root ∧ ∃ copy : Embedded root.type,
        store.Unfolds copy.depth root.type root.ref copy.tree ∧
          store.toBlob (.handle root.type) root.ref =
            if Bytes.limit ≤ copy.encode.length then .error .oversized
            else .ok (.embedded (FieldType.handle root.type).typeName copy.encode) := by
  rw [toBlob_handle]
  unfold blob embedded
  rcases unfold_cases typed leads intact (Nat.lt_succ_self store.cells.size) with
    ⟨tree, ran, unfolds⟩ | ⟨ran, meets⟩
  · refine .inr ⟨unfolds.not_meetsCycle, ⟨_, tree⟩, unfolds, ?_⟩
    simp only [ExceptT.run, StateT.run, ran]
    change Except.map _ (if Bytes.limit ≤ (tree.encode _ root.type).length then _ else _) =
      if Bytes.limit ≤ (tree.encode _ root.type).length then _ else _
    split
    · rfl
    · rfl
  · refine .inl ⟨meets, ?_⟩
    simp only [ExceptT.run, StateT.run, ran]
    rfl

/-- What can come of writing a handle by value. Bytes and elements that no length can tell are left
out: a tree may take too many bytes, and a list of markers, which take none, may be too long. -/
structure EmbedsByValue (store : Store) (root : Node) : Prop where
  ends : ∀ depth, store.cells.size < depth →
    (store.unfold depth root.type root.ref []).1 ≠ .error .walkTooDeep
  refused : store.toBlob (.handle root.type) root.ref = .error .embeddingCycle ↔
    store.MeetsCycle root
  written : ¬store.MeetsCycle root → ∃ copy : Embedded root.type,
    store.Unfolds copy.depth root.type root.ref copy.tree ∧
      (copy.encode.length < Bytes.limit → store.toBlob (.handle root.type) root.ref =
        .ok (.embedded (FieldType.handle root.type).typeName copy.encode))
  rebuilt : ∀ wire field, store.toBlob (.handle root.type) root.ref = .ok wire →
    (store.held root).length < Varint.bound → ∃ (copy : Embedded root.type) (occurrences : List Node),
      (FieldType.handle root.type).ofBlob field wire = .ok copy ∧ store.Unrolls [root] occurrences ∧
        ∀ before ref after, copy.plant before = (ref, after) →
          store.Replanted before after root ⟨root.type, ref⟩ occurrences
  -- The path that an attempt starts on is empty, for the attempts before it have left none.
  kept : ∀ path, (∀ below, Reaches store.held root below → below.ref ∉ path) →
    (store.attempt root path).2 = path
  independent : ∀ earlier, attempts (earlier ++ [(store, root)]) [] =
    (earlier.map (fun call => call.1.blob call.2.type call.2.ref) ++
      [store.blob root.type root.ref], [])

/-- A handle to intact objects is written by value unless a cycle is below it. What is read back is the
tree below it, planted as new objects that stand for the occurrences, and no attempt is in the way of
the next. -/
theorem embedsByValue (typed : store.WellTyped) (leads : store.Leads root)
    (intact : ∀ below, Reaches store.held root below → store.isPoisoned below.ref = false) :
    store.EmbedsByValue root where
  ends := by
    intro depth enough
    rcases unfold_cases typed leads intact enough with ⟨tree, ran, -⟩ | ⟨ran, -⟩
    · rw [ran]
      nofun
    · rw [ran]
      nofun
  refused := by
    rcases toBlob_cases typed leads intact with ⟨meets, failed⟩ | ⟨none, copy, unfolds, ran⟩
    · exact ⟨fun _ => meets, fun _ => failed⟩
    · refine ⟨fun failed => ?_, fun meets => absurd meets none⟩
      -- The only other refusal is of too many bytes, and has another text.
      rw [ran] at failed
      split at failed
      · exact absurd (Except.error.inj failed) (by decide)
      · cases failed
  written := by
    intro none
    rcases toBlob_cases typed leads intact with ⟨meets, -⟩ | ⟨-, copy, unfolds, ran⟩
    · exact absurd meets none
    · refine ⟨copy, unfolds, fun fits => ?_⟩
      rw [ran, if_neg (Nat.not_le.mpr fits)]
  rebuilt := by
    intro wire field ran few
    rw [toBlob_handle] at ran
    obtain ⟨body, written, rfl⟩ := map_eq_ok.mp ran
    obtain ⟨copy, read, unfolds⟩ := ofBlob_written few field written
    obtain ⟨occurrences, unrolls⟩ := unfolds.unrolls
    exact ⟨copy, occurrences, read, unrolls, fun before ref after planted =>
      replanted_of_plant unfolds unrolls planted⟩
  kept := fun path apart => path_attempt apart
  independent := by
    intro earlier
    rw [attempts_eq, List.map_append]
    rfl

def sharing : Store where
  cells := #[
    { type := .record .part, data := (⟨7, by decide⟩, ()) },
    { type := .list .part, data := [⟨0⟩, ⟨0⟩] }]

theorem sharing_wellTyped : sharing.WellTyped := by
  intro ref cell present child member
  match ref with
  | ⟨0⟩ =>
      cases present
      cases member
  | ⟨1⟩ =>
      cases present
      rcases List.mem_cons.mp member with rfl | again
      · exact ⟨_, rfl, rfl⟩
      · cases List.mem_singleton.mp again
        exact ⟨_, rfl, rfl⟩
  | ⟨_ + 2⟩ => cases present

/-- The part is written twice, and read back as two parts; the ring is refused. -/
theorem embedsByValue_sharing_and_ring :
    (sharing.EmbedsByValue ⟨.list .part, ⟨1⟩⟩ ∧
      sharing.Unrolls [⟨.list .part, ⟨1⟩⟩]
        [⟨.record .part, ⟨0⟩⟩, ⟨.record .part, ⟨0⟩⟩, ⟨.list .part, ⟨1⟩⟩] ∧
      sharing.toBlob (.handle (.list .part)) ⟨1⟩ =
        .ok (.embedded (FieldType.handle (.list .part)).typeName [2, 14, 14])) ∧
    ring.EmbedsByValue .inRing ∧ ring.MeetsCycle .inRing := by
  refine ⟨⟨embedsByValue sharing_wellTyped ⟨_, rfl, rfl⟩ ?_, ?_, ?_⟩,
    embedsByValue ring_wellTyped ⟨_, rfl, rfl⟩ ?_, ?_⟩
  · rintro ⟨type, ⟨_ | _ | _⟩⟩ - <;> rfl
  · have parts : sharing.Unrolls (sharing.held ⟨.list .part, ⟨1⟩⟩) _ :=
      @Unrolls.next _ _ _ [] _ .done (@Unrolls.next _ _ _ [] _ .done .done)
    exact .next parts .done
  · rfl
  · rintro ⟨type, ⟨_ | _ | _⟩⟩ - <;> rfl
  · have there : ⟨.record .link, ⟨1⟩⟩ ∈ ring.held .inRing := List.mem_singleton_self _
    have back : Node.inRing ∈ ring.held ⟨.record .link, ⟨1⟩⟩ := List.mem_singleton_self _
    exact ⟨.inRing, .here, _, there, .step .here back⟩

end Store

end ObjectCourier
