import PuppetRegistry.Proofs.Access.Stored

/-!
# Names and reloads

Names are offered to a puppet one after the other, and before any of them the copy in memory may be
dropped for what is found in its row. The row holds the quality of a name in the range of a byte.
Main statement: as long as no quality is above that range, nobody can tell whether the copy has been
dropped, and no name gives way to one of a lower quality; above the range a name still gives way
only to one of the highest quality in it.
-/

namespace PuppetRegistry.Access

open Program Sqlite

variable {server : String} {f : File} {t : Table} {r : Row} {p q : Puppet}

/-- Go on with the puppet that is found in the place of the one at hand, if there is one. -/
def reload (server : String) : Program Puppet Unit := do
  let p ← record
  match ← find server p.remoteId false with
  | some q => revise fun _ => q
  | none => return ()

theorem run_reload (stored : Stored server f t r p) :
    (reload server).run File.handle f p = ⟨.ok (), f, p.normal, []⟩ := by
  change ((find server p.remoteId false).bind _).run File.handle f p = _
  rw [run_bind, stored.find]
  rfl

/-- A name that is offered to a puppet. -/
structure Offer where
  name : Option String
  quality : Int
  /-- Whether the puppet is found again before. -/
  anew : Bool

namespace Offer

def edit (o : Offer) : Edit :=
  .rename o.name o.quality

def program (server : String) (o : Offer) : Program Puppet Bool := do
  if o.anew then reload server
  o.edit.program

def atOnce (o : Offer) : Offer :=
  { o with anew := false }

/-- Offers one after the other, with their answers. -/
def inTurn (server : String) : List Offer → Program Puppet (List Bool)
  | [] => done []
  | o :: rest => do
    let answer ← o.program server
    let answers ← inTurn server rest
    return answer :: answers

/-! ## One offer -/

def target (o : Offer) (p : Puppet) : Puppet :=
  if o.anew then p.normal else p

def after (o : Offer) (p : Puppet) : Puppet :=
  (o.edit.change? (o.target p)).getD (o.target p)

def answer (o : Offer) (p : Puppet) : Bool :=
  o.edit.answerSaved (o.target p)

theorem stored_target (o : Offer) (stored : Stored server f t r p) :
    Stored server f t r (o.target p) := by
  unfold target
  split
  · exact stored.normal
  · exact stored

theorem run_program (o : Offer) (stored : Stored server f t r p) :
    (o.program server).run File.handle f p = o.edit.program.run File.handle f (o.target p) := by
  unfold program target
  by_cases anew : o.anew
  · simp only [if_pos anew, bind_eq, run_bind, run_reload stored, Run.andThen, List.nil_append]
  · simp only [if_neg anew, bind_eq]

theorem run_stored (o : Offer) (stored : Stored server f t r p) :
    ∃ f' t' r' events,
      (o.program server).run File.handle f p = ⟨.ok (o.answer p), f', o.after p, events⟩ ∧
      Stored server f' t' r' (o.after p) := by
  have fits : ∀ now, o.edit = .noteSynced now → now.unixSeconds < endSecond := by
    intro now sync
    cases sync
  rw [o.run_program stored]
  exact (o.stored_target stored).edit o.edit fits

/-- A rename that changes a puppet has the quality that the puppet has afterwards, and no lower one
than before. -/
theorem of_change? {o : Offer} (new : o.edit.change? p = some q) :
    p.nameQuality ≤ o.quality ∧ q.nameQuality = o.quality ∧ q.avatarUri = p.avatarUri ∧
      q.lastSync = p.lastSync := by
  simp only [edit, Edit.change?, offered] at new
  by_cases poor : (Text.trim (o.name.getD "")).isEmpty || decide (o.quality < p.nameQuality)
  · rw [if_pos poor] at new
    cases new
  · rw [if_neg poor] at new
    have enough : p.nameQuality ≤ o.quality := by
      simp only [Bool.or_eq_true, decide_eq_true_eq, not_or, Int.not_lt] at poor
      exact poor.2
    split at new
    · split at new
      · cases new
        exact ⟨enough, rfl, rfl, rfl⟩
      · cases new
    · cases new
      exact ⟨enough, rfl, rfl, rfl⟩

/-- A quality as far as it is kept in a row. -/
abbrev kept (quality : Int) : Int :=
  min quality Puppet.maxQuality

theorem kept_le_target (o : Offer) (p : Puppet) : kept p.nameQuality ≤ (o.target p).nameQuality := by
  unfold target
  split
  · simp only [kept, Puppet.normal, Puppet.clampQuality]
    omega
  · simp only [kept]
    omega

theorem kept_le_after (o : Offer) (p : Puppet) :
    kept p.nameQuality ≤ kept (o.after p).nameQuality := by
  have before := o.kept_le_target p
  have enough : (o.target p).nameQuality ≤ (o.after p).nameQuality := by
    unfold after
    cases change : o.edit.change? (o.target p) with
    | none => exact Int.le_refl _
    | some q =>
      obtain ⟨le, same, _, _⟩ := of_change? change
      rw [Option.getD_some, same]
      exact le
  simp only [kept] at before ⊢
  omega

theorem of_answer {o : Offer} (taken : o.answer p = true) :
    kept p.nameQuality ≤ o.quality ∧ (o.after p).nameQuality = o.quality := by
  have before := o.kept_le_target p
  unfold answer Edit.answerSaved at taken
  unfold after
  cases change : o.edit.change? (o.target p) with
  | none =>
    rw [change] at taken
    cases taken
  | some q =>
    obtain ⟨le, same, _, _⟩ := of_change? change
    exact ⟨Int.le_trans before le, same⟩

/-! ## Offers in turn -/

def answers : List Offer → Puppet → List Bool
  | [], _ => []
  | o :: rest, p => o.answer p :: answers rest (o.after p)

def afterAll : List Offer → Puppet → Puppet
  | [], p => p
  | o :: rest, p => afterAll rest (o.after p)

theorem run_inTurn (stored : Stored server f t r p) (offers : List Offer) :
    ∃ f' t' r' events,
      (inTurn server offers).run File.handle f p =
        ⟨.ok (answers offers p), f', afterAll offers p, events⟩ ∧
      Stored server f' t' r' (afterAll offers p) := by
  induction offers generalizing f t r p with
  | nil => exact ⟨f, t, r, [], rfl, stored⟩
  | cons o rest ih =>
    obtain ⟨f₁, t₁, r₁, events₁, done₁, stored₁⟩ := o.run_stored stored
    obtain ⟨f₂, t₂, r₂, events₂, done₂, stored₂⟩ := ih stored₁
    refine ⟨f₂, t₂, r₂, events₁ ++ events₂, ?_, stored₂⟩
    simp only [inTurn, bind_eq, run_bind, done₁, Run.andThen, done₂, pure_eq, run,
      List.append_nil, answers, afterAll]

/-- The qualities of the names that have been taken over, in order. -/
def taken (offers : List Offer) (answers : List Bool) : List Int :=
  ((offers.zip answers).filter fun x => x.2).map fun x => x.1.quality

theorem taken_cons (o : Offer) (rest : List Offer) (answer : Bool) (answers : List Bool) :
    taken (o :: rest) (answer :: answers) =
      if answer then o.quality :: taken rest answers else taken rest answers := by
  cases answer <;> rfl

theorem le_of_mem_taken {offers : List Offer} {quality : Int}
    (mem : quality ∈ taken offers (answers offers p)) : kept p.nameQuality ≤ quality := by
  induction offers generalizing p with
  | nil => cases mem
  | cons o rest ih =>
    have later (mem : quality ∈ taken rest (answers rest (o.after p))) :
        kept p.nameQuality ≤ quality := Int.le_trans (o.kept_le_after p) (ih mem)
    rw [answers, taken_cons] at mem
    by_cases taken : o.answer p
    · rw [if_pos taken] at mem
      rcases List.mem_cons.mp mem with rfl | mem
      · exact (of_answer taken).1
      · exact later mem
    · rw [if_neg taken] at mem
      exact later mem

theorem pairwise_taken (offers : List Offer) (p : Puppet) :
    (taken offers (answers offers p)).Pairwise fun a b => kept a ≤ b := by
  induction offers generalizing p with
  | nil => exact .nil
  | cons o rest ih =>
    rw [answers, taken_cons]
    by_cases taken : o.answer p
    · rw [if_pos taken]
      refine .cons (fun quality mem => ?_) (ih _)
      rw [← (of_answer taken).2]
      exact le_of_mem_taken mem
    · rw [if_neg taken]
      exact ih _

/-! ## Qualities in range -/

/-- The quality of a puppet in normal form is in range, so an offer in range leaves it in normal
form. -/
theorem normal_after {o : Offer} (ranked : o.quality ≤ Puppet.maxQuality) (normal : p.normal = p) :
    (o.after p).normal = o.after p := by
  have same : o.target p = p := by
    unfold target
    split
    · exact normal
    · rfl
  have quality : Puppet.clampQuality p.nameQuality = p.nameQuality :=
    congrArg Puppet.nameQuality normal
  have avatarUri : p.avatarUri.normal = p.avatarUri := congrArg Puppet.avatarUri normal
  have sync : Puppet.normalSync p.lastSync = p.lastSync := congrArg Puppet.lastSync normal
  unfold after
  rw [same]
  cases change : o.edit.change? p with
  | none => exact normal
  | some q =>
    obtain ⟨le, quality', avatarUri', sync'⟩ := of_change? change
    have clamped : Puppet.clampQuality o.quality = o.quality := by
      simp only [Puppet.clampQuality, Puppet.minQuality, Puppet.maxQuality] at quality ranked ⊢
      omega
    rw [Option.getD_some, Puppet.normal, quality', avatarUri', sync', clamped, avatarUri, sync,
      ← quality', ← avatarUri', ← sync']

theorem run_inTurn_atOnce (stored : Stored server f t r p) (normal : p.normal = p)
    {offers : List Offer} (ranked : ∀ o ∈ offers, o.quality ≤ Puppet.maxQuality) :
    (inTurn server (offers.map atOnce)).run File.handle f p =
      (inTurn server offers).run File.handle f p := by
  induction offers generalizing f t r p with
  | nil => rfl
  | cons o rest ih =>
    have first : (o.atOnce.program server).run File.handle f p =
        (o.program server).run File.handle f p := by
      have same : o.atOnce.target p = o.target p := by
        unfold target
        rw [normal, ite_self, ite_self]
      rw [run_program _ stored, run_program _ stored, same]
      rfl
    obtain ⟨f₁, t₁, r₁, events₁, done₁, stored₁⟩ := o.run_stored stored
    have others := ih stored₁ (normal_after (ranked o List.mem_cons_self) normal)
      fun o mem => ranked o (List.mem_cons_of_mem _ mem)
    simp only [List.map_cons, inTurn, bind_eq, run_bind, first, done₁, Run.andThen, others]

end Offer

/-- Names offered to a puppet that has been found, or created, are all answered, and the name at
hand in the end is the stored one. No name gives way to one of a lower quality, as far as qualities
are kept; and if none is above the range, all is as if the copy in memory had never been dropped. -/
theorem names_kept_over_reloads {μ : Type} {m : μ} {id : RemoteId} {create : Bool}
    (ready : f.Ready t)
    (found : ((find server id create).run File.handle f m).result = .ok (some p))
    (offers : List Offer) :
    ∃ answers f' t' r' q events,
      (Offer.inTurn server offers).run File.handle
        ((find server id create).run File.handle f m).store p = ⟨.ok answers, f', q, events⟩ ∧
      Stored server f' t' r' q ∧
      (Offer.taken offers answers).Pairwise (fun a b => min a Puppet.maxQuality ≤ b) ∧
      ((∀ o ∈ offers, o.quality ≤ Puppet.maxQuality) →
        (Offer.taken offers answers).Pairwise (· ≤ ·) ∧
        (Offer.inTurn server (offers.map Offer.atOnce)).run File.handle
          ((find server id create).run File.handle f m).store p = ⟨.ok answers, f', q, events⟩) := by
  obtain ⟨t₀, r₀, stored, origin⟩ := stored_of_find ready found
  obtain ⟨f', t', r', events, done, stored'⟩ := Offer.run_inTurn stored offers
  have pairwise := Offer.pairwise_taken offers p
  refine ⟨_, f', t', r', _, events, done, stored', pairwise, fun ranked => ⟨?_, ?_⟩⟩
  · have within : ∀ a ∈ Offer.taken offers (Offer.answers offers p), a ≤ Puppet.maxQuality := by
      intro a mem
      obtain ⟨⟨o, answer⟩, held, rfl⟩ := List.mem_map.mp mem
      exact ranked o (List.of_mem_zip (List.mem_filter.mp held).1).1
    exact pairwise.imp_of_mem fun {a b} mem _ le => by
      have top := within a mem
      simp only [Offer.kept] at le
      omega
  · rw [Offer.run_inTurn_atOnce stored origin.normal ranked, done]

def ada : RemoteId :=
  ⟨"ada", "remote.example"⟩

/-- The file after a puppet has been created in a new one, and names have been offered to it. -/
def offeredToNew (offers : List Offer) : Run File Puppet (List Bool) :=
  (Offer.inTurn "remote.example" offers).run File.handle
    ((find "remote.example" ada true).run File.handle (File.init {}).2 ()).store { remoteId := ada }

def rankedOffers : List Offer :=
  [⟨some "Ada", 1, false⟩, ⟨some "Ada Lovelace", 100, true⟩, ⟨some "A. L.", 2, true⟩]

theorem names_kept_over_reloads_ranked :
    (offeredToNew rankedOffers).result = .ok [true, true, false] ∧
      (Offer.taken rankedOffers [true, true, false]).Pairwise (· ≤ ·) ∧
      offeredToNew (rankedOffers.map Offer.atOnce) = offeredToNew rankedOffers := by
  have found : ((find "remote.example" ada true).run File.handle (File.init {}).2 ()).result =
      .ok (some { remoteId := ada }) := rfl
  have ranked : ∀ o ∈ rankedOffers, o.quality ≤ Puppet.maxQuality := by decide
  have answered : (offeredToNew rankedOffers).result = .ok [true, true, false] := by decide +kernel
  obtain ⟨answers, f', _, _, q, events, done, _, _, inRange⟩ :=
    names_kept_over_reloads File.ready_init.2 found rankedOffers
  obtain ⟨rising, same⟩ := inRange ranked
  obtain rfl : answers = [true, true, false] :=
    Except.ok.inj ((congrArg Run.result done).symm.trans answered)
  exact ⟨answered, rising, same.trans done.symm⟩

def overratedOffers : List Offer :=
  [⟨some "Ada", 1000, false⟩, ⟨some "Eve", 500, true⟩]

/-- Above the range a name gives way to one of a lower quality once the copy has been dropped. -/
theorem lower_name_after_reload :
    ((offeredToNew overratedOffers).result = .ok [true, true] ∧
      (offeredToNew overratedOffers).store.table.map (·.map Row.displayname) =
        some [.text "Eve"]) ∧
    (offeredToNew (overratedOffers.map Offer.atOnce)).result = .ok [true, false] ∧
      (offeredToNew (overratedOffers.map Offer.atOnce)).store.table.map (·.map Row.displayname) =
        some [.text "Ada"] := by
  decide +kernel

end PuppetRegistry.Access
