/-
# Requests and their terms

Terms are written as their tag among their fields, and in a command among the fields of the request
too. All decimals can be read again, and so can the size of a contract that was read once
(`Terms.Kept`), so a request that was read can be written and read again.
-/

import LoanDesk.Proofs.Json.Entities.Offers

namespace LoanDesk

open Record

/-- A decimal lasts. -/
theorem Decimal.lasts (d : Decimal) : Lasts d := Decimal.ofText?_text d

namespace Terms

/-- The size of a contract is one that can be read; decimals can all be. -/
def Kept : Terms → Prop
  | underlying _ _ => True
  | derivative _ size => Lasts size

/-- Terms that were read from their fields can be read again. -/
theorem kept_of_ofRecord? {asset : AssetKind} {r : List String → Option Record} {t : Terms}
    (h : ofRecord? asset r = some t) : t.Kept := by
  cases asset with
  | underlying =>
    refine of_bind h fun _ _ h => ?_
    refine of_bind h fun _ _ h => ?_
    refine of_bind h fun _ _ ht => ?_
    obtain rfl := Option.some.inj ht
    exact trivial
  | derivative =>
    refine of_bind h fun _ _ h => ?_
    refine of_bind h fun _ _ h => ?_
    refine of_bind h fun _ hsize ht => ?_
    obtain rfl := Option.some.inj ht
    exact lasts_required hsize

/-- Terms that were read from an object can be read again. -/
theorem kept_of_ofObject? {tag? : Json → Option AssetKind} {j : Json} {t : Terms}
    (h : ofObject? tag? j = some t) : t.Kept := by
  refine of_bind h fun _ _ h => ?_
  split at h
  · exact of_bind h fun _ _ h => kept_of_ofRecord? h
  · cases h

/-- Terms are read from an object that has their fields and their tag among others. -/
theorem ofObject?_obj {t : Terms} (ht : t.Kept) {fields : List (String × Json)}
    {tag? : Json → Option AssetKind} (htag : tag? (toJson t.asset) = some t.asset)
    (hnodup : (fields.map (·.1)).Nodup) (hasset : ("asset_type", toJson t.asset) ∈ fields)
    (hfields : t.fields ⊆ fields) : ofObject? tag? (.obj fields) = some t := by
  refine bind_of (Json.object?_obj hnodup _) ?_
  rw [Record.of_eq_value hnodup hasset]
  refine bind_of htag ?_
  have hvalue {name : String} {j : Json} (h : (name, j) ∈ t.fields) :
      Record.of fields name = .value j := Record.of_eq_value hnodup (hfields h)
  cases t with
  | underlying rate limit =>
    exact bind_of (Json.object?_obj hnodup _) <|
      bind_lasts (Decimal.lasts rate) (hvalue List.mem_cons_self) <|
      bind_lasts (Decimal.lasts limit) (hvalue (List.mem_cons_of_mem _ List.mem_cons_self)) rfl
  | derivative rate size =>
    exact bind_of (Json.object?_obj hnodup _) <|
      bind_lasts (Decimal.lasts rate) (hvalue List.mem_cons_self) <|
      bind_lasts ht (hvalue (List.mem_cons_of_mem _ List.mem_cons_self)) rfl

/-- Terms last whose contract size can be read. -/
theorem lasts {t : Terms} (ht : t.Kept) : Lasts t := by
  refine ofObject?_obj ht (Vocabulary.find?_word t.asset) ?_ List.mem_cons_self
    (List.subset_cons_self _ _)
  cases t with
  | underlying => exact (by decide : ["asset_type", "loan_rate", "limit_amount"].Nodup)
  | derivative => exact (by decide : ["asset_type", "initial_rate", "contract_size"].Nodup)

end Terms

instance : Steady Terms where
  lasts {j t} h := by
    refine Terms.lasts ?_
    simp only [ofJson?] at h
    split at h
    · exact of_bind h fun _ _ h => Terms.kept_of_ofRecord? h
    · exact Terms.kept_of_ofObject? h

instance : Steady RequestDraft where
  lasts {j d} h := by
    refine of_bind h fun _ _ h => ?_
    refine of_bind h fun _ hsymbol h => ?_
    refine of_bind h fun _ hinvestor h => ?_
    refine of_bind h fun _ haccount h => ?_
    refine of_bind h fun _ hkind h => ?_
    refine of_bind h fun _ hterms hd => ?_
    obtain rfl := Option.some.inj hd
    exact lasts_of_record rfl (fun _ => rfl) rfl (by decide) <|
      bind_required hsymbol rfl <| bind_required hinvestor rfl <| bind_required haccount rfl <|
      bind_required hkind rfl <| bind_required hterms rfl rfl

namespace OpenRequest

/-- The fields of a draft with those of its terms beside them. -/
def fields (c : OpenRequest) : List (String × Json) :=
  [("symbol_id", toJson c.draft.symbol), ("investor_id", toJson c.draft.investor),
    ("account_no", toJson c.draft.account), ("request_type", toJson c.draft.kind),
    ("asset_type", toJson c.draft.terms.asset)] ++ c.draft.terms.fields

/-- No name comes twice among the fields of a draft and those of its terms. -/
theorem nodup_fields (c : OpenRequest) : (c.fields.map (·.1)).Nodup := by
  obtain ⟨⟨symbol, investor, account, kind, t⟩⟩ := c
  cases t with
  | underlying => exact (by decide : ["symbol_id", "investor_id", "account_no", "request_type",
      "asset_type", "loan_rate", "limit_amount"].Nodup)
  | derivative => exact (by decide : ["symbol_id", "investor_id", "account_no", "request_type",
      "asset_type", "initial_rate", "contract_size"].Nodup)

/-- The terms are read from among the fields of their draft. -/
theorem terms_of_fields {c : OpenRequest} (h : c.draft.terms.Kept) :
    Terms.ofObject? Terms.tagOrPlace? (.obj c.fields) = some c.draft.terms :=
  Terms.ofObject?_obj h (Vocabulary.find?_word _) c.nodup_fields (by simp [fields])
    (List.subset_append_right _ _)

end OpenRequest

instance : Steady OpenRequest where
  lasts {j c} h := by
    refine of_bind h fun _ _ h => ?_
    refine of_bind h fun _ hsymbol h => ?_
    refine of_bind h fun _ hinvestor h => ?_
    refine of_bind h fun _ haccount h => ?_
    refine of_bind h fun _ hkind h => ?_
    refine of_bind h fun t ht hc => ?_
    obtain rfl := Option.some.inj hc
    refine lasts_of_object rfl rfl (OpenRequest.nodup_fields _) <|
      bind_required hsymbol rfl <| bind_required hinvestor rfl <| bind_required haccount rfl <|
      bind_required hkind rfl <| bind_of ?_ rfl
    exact OpenRequest.terms_of_fields (Terms.kept_of_ofObject? ht)

/-- A request is read again from any record in which its fields stand as it is written. -/
theorem Request.ofRecord?_again {r r' : Record} {q : Request} (h : ofRecord? r = some q)
    (h' : ∀ name ∈ fieldNames, r' name = Record.of q.fields name) : ofRecord? r' = some q := by
  refine of_bind h fun _ hid h => ?_
  refine of_bind h fun _ hsymbol h => ?_
  refine of_bind h fun _ hinvestor h => ?_
  refine of_bind h fun _ haccount h => ?_
  refine of_bind h fun _ hrate h => ?_
  refine of_bind h fun _ hlimit h => ?_
  refine of_bind h fun _ hkind h => ?_
  refine of_bind h fun _ hasset h => ?_
  refine of_bind h fun _ hinitial h => ?_
  refine of_bind h fun _ hsize h => ?_
  refine of_bind h fun _ hstatus h => ?_
  refine of_bind h fun _ hcreated h => ?_
  refine of_bind h fun _ hupdated hq => ?_
  obtain rfl := Option.some.inj hq
  exact bind_required hid (h' _ (by decide)) <| bind_required hsymbol (h' _ (by decide)) <|
    bind_required hinvestor (h' _ (by decide)) <| bind_required haccount (h' _ (by decide)) <|
    bind_required hrate (h' _ (by decide)) <| bind_required hlimit (h' _ (by decide)) <|
    bind_required hkind (h' _ (by decide)) <| bind_required hasset (h' _ (by decide)) <|
    bind_optional hinitial (h' _ (by decide)) <| bind_optional hsize (h' _ (by decide)) <|
    bind_required hstatus (h' _ (by decide)) <| bind_required hcreated (h' _ (by decide)) <|
    bind_required hupdated (h' _ (by decide)) rfl

instance : Steady Request where
  lasts {j q} h := by
    refine of_bind h fun _ _ hq => ?_
    exact lasts_of_record rfl (fun _ => rfl) rfl (by decide)
      (Request.ofRecord?_again hq fun _ _ => rfl)

instance : Steady OfferDetails where
  lasts {j d} h := by
    refine of_bind h fun _ _ h => ?_
    refine of_bind h fun _ hoffer h => ?_
    refine of_bind h fun _ hrequest h => ?_
    refine of_bind h fun _ hlines hd => ?_
    obtain rfl := Option.some.inj hd
    exact lasts_of_record rfl (fun _ => rfl) rfl (by decide) <|
      bind_required hoffer rfl <| bind_required hrequest rfl <| bind_required hlines rfl rfl

end LoanDesk
