/-
# The actions of the desk keep order

Every action of the desk is put together as `Program.Ordered` has it, and changes what is stored by
the deed that is listed for it (`ordered_action`). So whatever holds of ordered actions holds of
each operation: it ends its transactions, it is safe beside others, and where it fails it has
changed nothing. What it tells of its change is as `Operation.Tells` has it (`announces_action`).
-/

import LoanDesk.Proofs.Desk.Order.Accepting
import LoanDesk.Proofs.Desk.Order.Cancelling

namespace LoanDesk
namespace Desk

open Program

variable {α : Type} {caller : Caller} {now : Instant}

/-! ### Requests, offers and ceilings -/

/-- Opening a request tells nobody. -/
theorem announces_openRequest (c : OpenRequest) :
    Announces (Deed (.operate (.openRequest c) caller now)) (Operation.openRequest c).Tells
      (Operation.openRequest c).unheard (openRequest c caller now) := by
  unfold openRequest
  cases hs : caller.actor.ensureScope c.draft.investor with
  | error e => exact .throw _
  | ok u =>
    cases hflaw : c.draft.flaw? with
    | some flaw => exact .throw _
    | none =>
      refine .check (.pure u) trivial fun _ => ?_
      refine .check (.pure ()) trivial fun _ => ?_
      refine .commit (C := fun _ => Deed (.operate (.openRequest c) caller now))
        ⟨_, _, rfl, fun tx => within_ask _ _, fun tx b hk => ?_⟩ id fun _ => rfl
      refine Brings.shared_ask fun n hn free r b₁ h₁ last hlast => ?_
      obtain ⟨rfl, -, rfl⟩ := Book.createRequest_eq_ok.1 h₁
      exact .openRequest hs (Int.lt_add_one_of_le hn) hlast hflaw

/-- A request that is open is deleted, with none of its lines accepted. -/
theorem commits_deleteRequest (id : Int) :
    Commits (fun _ => Deed (.operate (.deleteRequest id) caller now)) (deleteRequest id) := by
  refine ⟨_, _, rfl, fun tx => ?_, fun tx b hk => ?_⟩
  · refine (within_ask _ _).bind fun r => ?_
    refine (within_ensure _).bind fun _ => ?_
    refine (within_ask _ _).bind fun lines => ?_
    split
    · exact within_throw _
    · exact within_ask _ _
  · refine Brings.shared_ask_bind fun n hn free r b₁ h₁ => ?_
    obtain ⟨hr, -, rfl⟩ := Book.lockRequest_eq_ok.1 h₁
    refine brings_ensure fun hpend => ?_
    refine Brings.shared_ask_bind fun n₂ hn₂ free₂ lines b₂ h₂ => ?_
    obtain ⟨rfl, rfl⟩ := Book.linesOfRequests_eq_ok.1 h₂
    split
    · exact Brings.throw fun _ _ => trivial
    · rename_i hnone
      refine Brings.shared_ask fun n₃ hn₃ free₃ _ b₃ h₃ last hlast => ?_
      obtain ⟨-, -, -, rfl⟩ := Book.deleteRequest_eq_ok.1 h₃
      dsimp only at hr hn hn₂ hn₃ hlast
      have hid := hk.requests _ _ hr
      rw [← hid] at hr ⊢
      refine .deleteRequest hr (isPending_of_ensure hpend) (fun l hl hreq => ?_) (by omega)
      have hfree := List.find?_eq_none.1 hnone l
      rw [mem_newestFirst, List.mem_filter] at hfree
      simpa using hfree ⟨hl, by simp [hreq, hid]⟩

/-- A proposal tells the investor that an offer is ready, once. -/
theorem announces_propose (c : Proposal) :
    Announces (Deed (.operate (.propose c) caller now)) (Operation.propose c).Tells
      (Operation.propose c).unheard (propose c caller now) := by
  unfold propose
  cases hflaw : proposalFlaw? c now with
  | some flaw => exact .throw _
  | none =>
    refine .check (.pure ()) trivial fun _ => ?_
    refine .change
      (C := fun x b b' => Deed (.operate (.propose c) caller now) b b' ∧ b.rows.HasOpen x.1)
      ⟨_, _, rfl, fun tx => ?_, fun tx b hk => ?_⟩ And.left (fun _ => heedless_tell _ fun _ _ => rfl)
      fun ⟨r, sheet, offer, lines⟩ => telling_tell _ fun _ _ _ hC => ⟨r, offer.id, rfl, hC.2⟩
    · refine (within_ask _ _).bind fun r => ?_
      refine (within_ensure _).bind fun _ => ?_
      refine (within_ask _ _).bind fun sheet => ?_
      refine (within_ask _ _).bind fun offer => ?_
      refine (within_ask _ _).bind fun lines => ?_
      exact within_pure _
    · refine Brings.shared_ask_bind fun n hn free r b₁ h₁ => ?_
      obtain ⟨hr, -, rfl⟩ := Book.lockRequest_eq_ok.1 h₁
      refine brings_ensure fun hpend => ?_
      refine Brings.shared_ask_bind fun n₂ hn₂ free₂ s b₂ h₂ => ?_
      obtain ⟨-, rfl, rfl⟩ := Book.createSheet_eq_ok.1 h₂
      refine Brings.shared_ask_bind fun n₃ hn₃ free₃ o b₃ h₃ => ?_
      obtain ⟨-, rfl, rfl⟩ := Book.createOffer_eq_ok.1 h₃
      refine Brings.shared_ask_bind fun n₄ hn₄ free₄ ls b₄ h₄ => ?_
      obtain ⟨rfl, -, rfl⟩ := Book.createLines_eq_ok.1 h₄
      refine Brings.pure fun ⟨rows', last⟩ ⟨hrows, hlast⟩ => ?_
      dsimp only at hr hn hn₂ hn₃ hn₄ hlast
      subst hrows
      exact ⟨.propose hflaw hr (isPending_of_ensure hpend) (by dsimp only; omega)
        (by dsimp only; omega) (by dsimp only; omega) (by dsimp only; omega),
        by rw [hk.requests _ _ hr]; exact hr, isPending_of_ensure hpend⟩

/-- A new ceiling tells nobody. -/
theorem announces_addCeiling (rate : Decimal) (affectedFrom : Instant) :
    Announces (Deed (.operate (.addCeiling rate affectedFrom) caller now))
      (Operation.addCeiling rate affectedFrom).Tells
      (Operation.addCeiling rate affectedFrom).unheard (addCeiling rate affectedFrom now) := by
  unfold addCeiling
  cases hflaw : Ceiling.flaw? rate with
  | some flaw => exact .throw _
  | none =>
    refine .check (.pure ()) trivial fun _ => ?_
    refine .commit (C := fun _ => Deed (.operate (.addCeiling rate affectedFrom) caller now))
      ⟨_, _, rfl, fun tx => within_ask _ _, fun tx b hk => ?_⟩ id fun _ => rfl
    refine Brings.shared_ask fun n hn free k b₁ h₁ last hlast => ?_
    obtain ⟨rfl, rfl⟩ := Book.createCeiling_eq_ok.1 h₁
    exact .addCeiling (Int.lt_add_one_of_le hn) hlast hflaw

/-! ### Reading -/

/-- An action that only reads, in one transaction, has nothing to tell. -/
theorem announces_look {D : Book → Book → Prop} {T : α → List Event → Rows → Rows → Prop} {u : α → α}
    {body : TxId → Action α} (h : ∀ tx, Within tx (body tx)) (hT : ∀ a rows, T a [] rows rows) :
    Announces D T u (look body) :=
  .still (tidy_bracket fun tx _ => (h tx).tidy List.mem_cons_self)
    (quiet_bracket fun tx => (h tx).quiet) hT

/-- A list of overviews only looks at the rows. -/
theorem quiet_listOverviews (f : RequestFilter) (page : Page) :
    Quiet (listOverviews f page).run := by
  refine quiet_bracket fun pageTx => ?_
  refine quiet_bracket fun countTx => ?_
  refine Quiet.bindExcept (within_ask _ _).quiet fun requests => ?_
  refine Quiet.bindExcept (within_ask _ _).quiet fun total => ?_
  exact Quiet.bindExcept (within_ask _ _).quiet fun lines => trivial

/-- The two transactions of a page of overviews are open at the same time. -/
theorem announces_listOverviews {D : Book → Book → Prop} (f : RequestFilter) (page : Page) :
    Announces D (Operation.listOverviews f page).Tells (Operation.listOverviews f page).unheard
      (listOverviews f page) := by
  refine .still (tidy_bracket fun pageTx hpage => tidy_bracket fun countTx hcount => ?_)
    (quiet_listOverviews f page) fun _ _ => rfl
  refine Tidy.bindExcept ((within_ask _ _).tidy (List.mem_cons_of_mem _ List.mem_cons_self))
    fun rs => ?_
  refine Tidy.bindExcept ((within_ask _ _).tidy List.mem_cons_self) fun total => ?_
  exact Tidy.bindExcept ((within_ask _ _).tidy (List.mem_cons_of_mem _ List.mem_cons_self))
    fun lines => rfl

/-- **Every operation keeps order**: it changes what is stored by its own deed, and tells of it what
it has to. -/
theorem announces_action (o : Operation) (caller : Caller) (now : Instant) :
    Announces (Deed (.operate o caller now)) o.Tells o.unheard (o.action caller now) := by
  cases o with
  | openRequest c => exact announces_openRequest c
  | deleteRequest id => exact .commit (commits_deleteRequest id) (fun h => h) fun _ => rfl
  | overview id =>
    refine announces_look (fun tx => ?_) fun _ _ => rfl
    refine (within_ask _ _).bind fun request => ?_
    refine (within_ask _ _).bind fun lines => ?_
    exact within_pure _
  | listOverviews f page => exact announces_listOverviews f page
  | propose c => exact announces_propose c
  | offersFor investor =>
    refine .check (ordered_ensure _) (quiet_ensure _) fun _ => ?_
    exact announces_look (fun _ => within_ask _ _) fun _ _ => rfl
  | confirm c => exact announces_confirm c
  | accept c => exact announces_accept c
  | createPackage line => exact announces_createPackage line
  | setGuaranteeEnd contract at_ => exact announces_setGuaranteeEnd contract at_
  | cancel c => exact announces_cancel c
  | decline offer => exact announces_decline offer
  | withdraw symbol => exact announces_withdraw symbol
  | addCeiling rate affectedFrom => exact announces_addCeiling rate affectedFrom
  | currentCeiling => exact announces_look (fun _ => within_ask _ _) fun _ _ => rfl
  | listJobs kind limit => exact announces_look (fun _ => within_ask _ _) fun _ _ => rfl

/-- Every operation changes the rows by its own deeds. -/
theorem ordered_action (o : Operation) (caller : Caller) (now : Instant) :
    Ordered (Deed (.operate o caller now)) (o.action caller now) :=
  (announces_action o caller now).ordered

end Desk
end LoanDesk
