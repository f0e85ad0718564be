/-
# Records that are read where they are written

Every record of the desk is written as an object with the names that it is read by, in their order,
so what is read of it lasts (`records_steady`). Where a record is written differently, its tag or the
object in it is looked at by itself:

| type | written as |
| --- | --- |
| terms | their tag among their fields; in a command among the fields of the request too |
| standing | a word, and the reason where it is cancelled |
| overview | the fields of the request, and the standing as an object in one more field |
| actor | its kind and its number or name |
| caller | its actor, and its identifier if it has one |
-/

import LoanDesk.Caller
import LoanDesk.Proofs.Json.Entities.Requests

namespace LoanDesk

open Record

/-! ### Standings and overviews -/

/-- A standing lasts. -/
theorem Standing.lasts (s : Standing) : Lasts s := by
  cases s with
  | cancelled reason => cases reason <;> rfl
  | _ => rfl

instance : Steady Standing := ⟨fun _ => Standing.lasts _⟩

/-- The fields of a request are no objects, so nothing of them is lost where they are set aside. -/
theorem Request.emptied_fields (q : Request) : ∀ f ∈ q.fields, f.2.emptied = f.2 := by
  have hrate : (toJson q.initialRate).emptied = toJson q.initialRate := by
    cases q.initialRate <;> rfl
  have hsize : (toJson q.contractSize).emptied = toJson q.contractSize := by
    cases q.contractSize <;> rfl
  simp only [fields, List.forall_mem_cons]
  exact ⟨rfl, rfl, rfl, rfl, rfl, rfl, rfl, rfl, hrate, hsize, rfl, rfl, rfl, List.forall_mem_nil _⟩

namespace RequestOverview

/-- The fields of the request, and two more. -/
def fields (o : RequestOverview) : List (String × Json) :=
  o.request.fields ++
    [("combined_status", toJson o.standing), ("interest_count", toJson o.lineCount)]

/-- No name comes twice among the fields of an overview. -/
theorem nodup_fields (o : RequestOverview) : (o.fields.map (·.1)).Nodup :=
  (by decide : (Request.fieldNames ++ ["combined_status", "interest_count"]).Nodup)

/-- The fields of the request stand in the object as they stand by themselves. -/
theorem emptied_of_fields (o : RequestOverview) : ∀ name ∈ Request.fieldNames,
    (Record.of o.fields).emptied name = Record.of o.request.fields name := by
  intro name hname
  obtain ⟨f, hf, rfl⟩ := List.mem_map.1 (show name ∈ o.request.fields.map (·.1) from hname)
  have hown : Record.of o.request.fields f.1 = .value f.2 :=
    Record.of_eq_value ((List.sublist_append_left _ _).map _ |>.nodup o.nodup_fields) hf
  rw [emptied, Record.of_eq_value o.nodup_fields (List.mem_append_left _ hf), hown]
  exact congrArg Slot.value (o.request.emptied_fields f hf)

end RequestOverview

instance : Steady RequestOverview where
  lasts {j o} h := by
    refine of_bind h fun own _ h => ?_
    refine of_bind h fun _ _ h => ?_
    refine of_bind h fun q hq h => ?_
    refine of_bind h fun _ hstanding h => ?_
    refine of_bind h fun _ hcount ho => ?_
    obtain rfl := Option.some.inj ho
    refine lasts_of_object rfl rfl (RequestOverview.nodup_fields _) ?_
    refine bind_of (Json.object?_obj (RequestOverview.nodup_fields _) _) ?_
    refine bind_of (Request.ofRecord?_again hq ?_) ?_
    · exact RequestOverview.emptied_of_fields _
    · exact bind_required hstanding rfl <| bind_required hcount rfl rfl

/-! ### Actors and callers -/

namespace Actor

/-- An actor that was read from a kind and a number or name lasts. -/
theorem lasts_of_ofParts? {kind : String} {id : Json} {a : Actor} (h : ofParts? kind id = some a) :
    Lasts a := by
  unfold ofParts? at h
  split at h
  · obtain ⟨n, hn, rfl⟩ := Option.map_eq_some_iff.1 h
    refine lasts_of_object rfl rfl (by decide : ["kind", "id"].Nodup) ?_
    exact congrArg (Option.map investor) (show ofJson? (toJson n) = some n from Steady.lasts hn)
  · obtain ⟨name, -, rfl⟩ := Option.map_eq_some_iff.1 h
    exact lasts_of_object rfl rfl (by decide : ["kind", "id"].Nodup) rfl
  · obtain ⟨name, -, rfl⟩ := Option.map_eq_some_iff.1 h
    exact lasts_of_object rfl rfl (by decide : ["kind", "id"].Nodup) rfl
  · cases h

end Actor

instance : Steady Actor where
  lasts {j a} h := by
    simp only [ofJson?] at h
    split at h
    · exact Actor.lasts_of_ofParts? h
    · refine of_bind h fun _ _ h => ?_
      split at h
      · exact of_bind h fun _ _ h => Actor.lasts_of_ofParts? h
      · cases h

instance : Steady Caller where
  lasts {j c} h := by
    refine of_bind h fun _ _ h => ?_
    refine of_bind h fun actor hactor h => ?_
    refine of_bind h fun correlation hid hc => ?_
    obtain rfl := Option.some.inj hc
    cases correlation with
    | none =>
      -- The identifier is not written at all, so the object lacks one of the names.
      have hread : (Json.obj [("actor", toJson actor)]).record? ["actor", "correlation_id"] =
          some (Record.of [("actor", toJson actor)]) :=
        Json.record?_obj (by simp) _
      exact bind_of hread (bind_required hactor rfl rfl)
    | some id =>
      exact lasts_of_record rfl (fun _ => rfl) rfl (by decide) <|
        bind_required hactor rfl <| bind_optional hid rfl rfl

/-! ### Commands -/

instance : Steady Proposal where
  lasts {j c} h := by
    refine of_bind h fun _ _ h => ?_
    refine of_bind h fun _ hrequest h => ?_
    refine of_bind h fun _ hflow h => ?_
    refine of_bind h fun _ hexpired h => ?_
    refine of_bind h fun _ hterms h => ?_
    refine of_bind h fun _ hlines hc => ?_
    obtain rfl := Option.some.inj hc
    exact lasts_of_record rfl (fun _ => rfl) rfl (by decide) <|
      bind_required hrequest rfl <| bind_required hflow rfl <|
      bind_defaulted lasts_none hexpired rfl <| bind_defaulted rfl hterms rfl <|
      bind_required hlines rfl rfl

instance : Steady Confirmation where
  lasts {j c} h := by
    refine of_bind h fun _ _ h => ?_
    refine of_bind h fun _ hrequest h => ?_
    refine of_bind h fun _ hloan hc => ?_
    obtain rfl := Option.some.inj hc
    exact lasts_of_record rfl (fun _ => rfl) rfl (by decide) <|
      bind_required hrequest rfl <| bind_required hloan rfl rfl

instance : Steady Acceptance where
  lasts {j c} h := by
    refine of_bind h fun _ _ h => ?_
    refine of_bind h fun _ hoffer h => ?_
    refine of_bind h fun _ hline hc => ?_
    obtain rfl := Option.some.inj hc
    exact lasts_of_record rfl (fun _ => rfl) rfl (by decide) <|
      bind_required hoffer rfl <| bind_required hline rfl rfl

instance : Steady Cancellation where
  lasts {j c} h := by
    refine of_bind h fun _ _ h => ?_
    refine of_bind h fun _ hrequest h => ?_
    refine of_bind h fun _ hloans h => ?_
    refine of_bind h fun _ hfor hc => ?_
    obtain rfl := Option.some.inj hc
    exact lasts_of_record rfl (fun _ => rfl) rfl (by decide) <|
      bind_required hrequest rfl <| bind_required hloans rfl <| bind_defaulted rfl hfor rfl rfl

/-! ### All of them -/

/-- **What is read as any record, word or command of the desk is written so that it is read again,
and is the same.** -/
theorem records_steady :
    (Steady Request ∧ Steady Terms ∧ Steady RequestDraft ∧ Steady Offer ∧ Steady OfferDraft ∧
      Steady Line ∧ Steady LineDraft ∧ Steady OfferDetails ∧ Steady Sheet ∧ Steady Contract ∧
      Steady Ceiling ∧ Steady JobRecord ∧ Steady Standing ∧ Steady RequestOverview) ∧
    (Steady RequestStatus ∧ Steady RequestKind ∧ Steady AssetKind ∧ Steady Flow ∧
      Steady LineStatus ∧ Steady CancelReason ∧ Steady JobKind ∧ Steady JobStatus) ∧
    (Steady Actor ∧ Steady Caller ∧ Steady Page) ∧
    (Steady OpenRequest ∧ Steady Proposal ∧ Steady Confirmation ∧ Steady Acceptance ∧
      Steady Cancellation) := by
  and_intros <;> infer_instance

end LoanDesk
