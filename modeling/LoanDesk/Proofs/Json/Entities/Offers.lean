/-
# Offers and what comes with them

Pages, contracts, ceilings and job records, and offers with their lines, are written as objects with
the names that they are read by, in their order, so what is read of them lasts.
-/

import LoanDesk.Desk.Command
import LoanDesk.Proofs.Json.Record
import LoanDesk.Schedule

namespace LoanDesk

open Record

/-! ### Pages, contracts, ceilings and jobs -/

instance : Steady Page where
  lasts {j p} h := by
    refine of_bind h fun _ _ h => ?_
    refine of_bind h fun _ hlimit h => ?_
    refine of_bind h fun _ hoffset hp => ?_
    obtain rfl := Option.some.inj hp
    exact lasts_of_record rfl (fun _ => rfl) rfl (by decide) <|
      bind_required hlimit rfl <| bind_required hoffset rfl rfl

instance : Steady Contract where
  lasts {j c} h := by
    refine of_bind h fun _ _ h => ?_
    refine of_bind h fun _ hid h => ?_
    refine of_bind h fun _ hrequest h => ?_
    refine of_bind h fun _ hline h => ?_
    refine of_bind h fun _ hinvestor h => ?_
    refine of_bind h fun _ haccount h => ?_
    refine of_bind h fun _ hsymbol h => ?_
    refine of_bind h fun _ hloan h => ?_
    refine of_bind h fun _ hended h => ?_
    refine of_bind h fun _ hcreated hc => ?_
    obtain rfl := Option.some.inj hc
    exact lasts_of_record rfl (fun _ => rfl) rfl (by decide) <|
      bind_required hid rfl <| bind_required hrequest rfl <| bind_required hline rfl <|
      bind_required hinvestor rfl <| bind_required haccount rfl <| bind_required hsymbol rfl <|
      bind_required hloan rfl <| bind_optional hended rfl <| bind_required hcreated rfl rfl

instance : Steady Ceiling where
  lasts {j c} h := by
    refine of_bind h fun _ _ h => ?_
    refine of_bind h fun _ hid h => ?_
    refine of_bind h fun _ hrate h => ?_
    refine of_bind h fun _ hfrom h => ?_
    refine of_bind h fun _ hcreated hc => ?_
    obtain rfl := Option.some.inj hc
    exact lasts_of_record rfl (fun _ => rfl) rfl (by decide) <|
      bind_required hid rfl <| bind_required hrate rfl <| bind_required hfrom rfl <|
      bind_required hcreated rfl rfl

instance : Steady JobRecord where
  lasts {j e} h := by
    refine of_bind h fun _ _ h => ?_
    refine of_bind h fun _ hid h => ?_
    refine of_bind h fun _ hkind h => ?_
    refine of_bind h fun _ hstatus h => ?_
    refine of_bind h fun _ hby h => ?_
    refine of_bind h fun _ htracking h => ?_
    refine of_bind h fun _ hcreated he => ?_
    obtain rfl := Option.some.inj he
    exact lasts_of_record rfl (fun _ => rfl) rfl (by decide) <|
      bind_required hid rfl <| bind_required hkind rfl <| bind_required hstatus rfl <|
      bind_required hby rfl <| bind_required htracking rfl <| bind_required hcreated rfl rfl

/-! ### Offers and their lines -/

instance : Steady OfferDraft where
  lasts {j d} h := by
    refine of_bind h fun _ _ h => ?_
    refine of_bind h fun _ hrequest h => ?_
    refine of_bind h fun _ hby h => ?_
    refine of_bind h fun _ hflow h => ?_
    refine of_bind h fun _ hexpired hd => ?_
    obtain rfl := Option.some.inj hd
    exact lasts_of_record rfl (fun _ => rfl) rfl (by decide) <|
      bind_required hrequest rfl <| bind_required hby rfl <| bind_required hflow rfl <|
      bind_optional hexpired rfl rfl

instance : Steady Offer where
  lasts {j o} h := by
    refine of_bind h fun _ _ h => ?_
    refine of_bind h fun _ hid h => ?_
    refine of_bind h fun _ hrequest h => ?_
    refine of_bind h fun _ hby h => ?_
    refine of_bind h fun _ hflow h => ?_
    refine of_bind h fun _ hexpired h => ?_
    refine of_bind h fun _ hcreated ho => ?_
    obtain rfl := Option.some.inj ho
    exact lasts_of_record rfl (fun _ => rfl) rfl (by decide) <|
      bind_required hid rfl <| bind_required hrequest rfl <| bind_required hby rfl <|
      bind_required hflow rfl <| bind_optional hexpired rfl <| bind_required hcreated rfl rfl

/-- Days are written as any whole number, and are in bounds where they were read. -/
theorem bind_days {β : Type} {r r' : Record} {name : String} {n : Int} {f : Int → Option β} {b : β}
    (h : days? r name = some n) (h' : r' name = .value (toJson n)) (hf : f n = some b) :
    (days? r' name >>= f) = some b := by
  refine bind_of ?_ hf
  rw [days?, h']
  unfold days? at h
  split at h
  · exact Json.intWithin?_int h
  · cases h

instance : Steady LineDraft where
  lasts {j d} h := by
    refine of_bind h fun _ _ h => ?_
    refine of_bind h fun _ hloan h => ?_
    refine of_bind h fun _ hgroup h => ?_
    refine of_bind h fun _ hlimit h => ?_
    refine of_bind h fun _ hrate h => ?_
    refine of_bind h fun _ hinterest h => ?_
    refine of_bind h fun _ hterm hd => ?_
    obtain rfl := Option.some.inj hd
    exact lasts_of_record rfl (fun _ => rfl) rfl (by decide) <|
      bind_required hloan rfl <| bind_defaulted lasts_none hgroup rfl <|
      bind_required hlimit rfl <| bind_required hrate rfl <| bind_required hinterest rfl <|
      bind_days hterm rfl rfl

instance : Steady Line where
  lasts {j l} h := by
    refine of_bind h fun _ _ h => ?_
    refine of_bind h fun _ hid h => ?_
    refine of_bind h fun _ hoffer h => ?_
    refine of_bind h fun _ hrequest h => ?_
    refine of_bind h fun _ hloan h => ?_
    refine of_bind h fun _ hgroup h => ?_
    refine of_bind h fun _ hlimit h => ?_
    refine of_bind h fun _ hrate h => ?_
    refine of_bind h fun _ hinterest h => ?_
    refine of_bind h fun _ hterm h => ?_
    refine of_bind h fun _ hstatus h => ?_
    refine of_bind h fun _ hreason h => ?_
    refine of_bind h fun _ hby h => ?_
    refine of_bind h fun _ hat h => ?_
    refine of_bind h fun _ hcontract h => ?_
    refine of_bind h fun _ hcreated h => ?_
    refine of_bind h fun _ hupdated hl => ?_
    obtain rfl := Option.some.inj hl
    exact lasts_of_record rfl (fun _ => rfl) rfl (by decide) <|
      bind_required hid rfl <| bind_required hoffer rfl <| bind_required hrequest rfl <|
      bind_required hloan rfl <| bind_optional hgroup rfl <| bind_required hlimit rfl <|
      bind_required hrate rfl <| bind_required hinterest rfl <| bind_days hterm rfl <|
      bind_required hstatus rfl <| bind_required hreason rfl <| bind_optional hby rfl <|
      bind_optional hat rfl <| bind_optional hcontract rfl <| bind_required hcreated rfl <|
      bind_required hupdated rfl rfl

instance : Steady Sheet where
  lasts {j s} h := by
    refine of_bind h fun _ _ h => ?_
    refine of_bind h fun _ hid h => ?_
    refine of_bind h fun _ hrequest h => ?_
    refine of_bind h fun _ hby h => ?_
    refine of_bind h fun _ hterms h => ?_
    refine of_bind h fun _ hcreated hs => ?_
    obtain rfl := Option.some.inj hs
    exact lasts_of_record rfl (fun _ => rfl) rfl (by decide) <|
      bind_required hid rfl <| bind_required hrequest rfl <| bind_required hby rfl <|
      bind_required hterms rfl <| bind_required hcreated rfl rfl

end LoanDesk
