import MyApiSpec.Ledger.Concurrent

/-!
# Conservation of quota

Every balance of an account row is its initial value moved by what the reservations charged
to it cost. A reservation costs its applied quota while it has no terminal receipt, the
actual quota once it is settled, and nothing once it is refunded. Period and admin resets
clear the used amount of a subscription behind the ledger, so the subscription balance is
exact only together with the log of cleared amounts.
-/

namespace MyApiSpec.Ledger

open Base Table Head

/-! ### Movements of account rows -/

variable {h new : Head} {db db' : DB} {log : ResetLog} {u : User} {t : Token}
  {s : Option UserSubscription} {d : AccountQuotaDeltas} {q : Int} {old : Option Head} {env : TxEnv}
  {ps : Table ProjectionObligation}

/-- The balances of a user are in range. -/
structure User.InRange (u : User) : Prop where
  quota : -maxQuotaBalance ≤ u.quota ∧ u.quota ≤ maxQuotaBalance
  usedQuota : 0 ≤ u.usedQuota ∧ u.usedQuota ≤ maxQuotaBalance

/-- The balances of a token are in range. -/
structure Token.InRange (t : Token) : Prop where
  remainQuota : -maxQuotaBalance ≤ t.remainQuota ∧ t.remainQuota ≤ maxQuotaBalance
  usedQuota : 0 ≤ t.usedQuota ∧ t.usedQuota ≤ maxQuotaBalance

/-- The wallet of a user moved by `δ`. -/
structure User.Moves (u u' : User) (δ : Int) : Prop where
  quota : u'.quota = u.quota + δ
  inRange : u.InRange → u'.InRange

/-- A token was charged `δ`. -/
structure Token.Moves (t t' : Token) (δ : Int) : Prop where
  userID : t'.userID = t.userID
  remainQuota : t'.remainQuota = t.remainQuota - δ
  usedQuota : t'.usedQuota = t.usedQuota + δ
  inRange : t.InRange → t'.InRange

/-- The used amount of a subscription moved by `δ`. -/
structure UserSubscription.Moves (s s' : UserSubscription) (δ : Int) : Prop where
  userID : s'.userID = s.userID
  amountTotal : s'.amountTotal = s.amountTotal
  amountUsed : s'.amountUsed = s.amountUsed + δ
  inRange : s.InRange → s'.InRange

theorem User.Moves.refl (u : User) : u.Moves u 0 := ⟨by omega, fun h => h⟩

theorem Token.Moves.refl (t : Token) : t.Moves t 0 := ⟨rfl, by omega, by omega, fun h => h⟩

theorem UserSubscription.Moves.refl (s : UserSubscription) : s.Moves s 0 :=
  ⟨rfl, rfl, by omega, fun h => h⟩

theorem User.Moves.trans (a b c : User) (x y : Int) (h : a.Moves b x) (h' : b.Moves c y) :
    a.Moves c (x + y) :=
  ⟨by rw [h'.quota, h.quota]; omega, h'.inRange ∘ h.inRange⟩

theorem Token.Moves.trans (a b c : Token) (x y : Int) (h : a.Moves b x) (h' : b.Moves c y) :
    a.Moves c (x + y) :=
  ⟨h'.userID.trans h.userID, by rw [h'.remainQuota, h.remainQuota]; omega,
    by rw [h'.usedQuota, h.usedQuota]; omega, h'.inRange ∘ h.inRange⟩

theorem UserSubscription.Moves.trans (a b c : UserSubscription) (x y : Int) (h : a.Moves b x)
    (h' : b.Moves c y) : a.Moves c (x + y) :=
  ⟨h'.userID.trans h.userID, h'.amountTotal.trans h.amountTotal,
    by rw [h'.amountUsed, h.amountUsed]; omega, h'.inRange ∘ h.inRange⟩

/-- The account tables moved: wallets, tokens and subscriptions by the amounts of their ids. -/
structure AccountsMove (db db' : DB) (wallet token subscription : Int → Int) : Prop where
  users : Table.Moves User.Moves db.users db'.users wallet
  tokens : Table.Moves Token.Moves db.tokens db'.tokens token
  subscriptions :
    Table.Moves UserSubscription.Moves db.subscriptions db'.subscriptions subscription

theorem AccountsMove.refl (db : DB) : AccountsMove db db (fun _ => 0) (fun _ => 0) (fun _ => 0) :=
  ⟨Table.Moves.refl User.Moves.refl _, Table.Moves.refl Token.Moves.refl _,
    Table.Moves.refl UserSubscription.Moves.refl _⟩

theorem AccountsMove.trans {a b c : DB} {f g h f' g' h' : Int → Int} (hab : AccountsMove a b f g h)
    (hbc : AccountsMove b c f' g' h') :
    AccountsMove a c (fun i => f i + f' i) (fun i => g i + g' i) (fun i => h i + h' i) :=
  ⟨hab.users.trans User.Moves.trans hbc.users, hab.tokens.trans Token.Moves.trans hbc.tokens,
    hab.subscriptions.trans UserSubscription.Moves.trans hbc.subscriptions⟩

/-- Logged resets move subscriptions by what they cleared. -/
theorem resets_move {subs : Table UserSubscription} (h : ResetEffect db.subscriptions subs log) :
    AccountsMove db { db with subscriptions := subs } (fun _ => 0) (fun _ => 0)
      (fun i => -wiped log i) := by
  refine ⟨Table.Moves.refl User.Moves.refl _, Table.Moves.refl Token.Moves.refl _, ?_⟩
  intro i s hs
  obtain ⟨s', hs', hr⟩ := h.2 i s hs
  exact ⟨s', hs', hr.userID, hr.amountTotal, by rw [hr.amountUsed]; exact Int.sub_eq_add_neg,
    hr.inRange⟩

/-! ### Deltas -/

section

variable (source : BillingSource)

/-- The wallet part of a charge. -/
theorem requestedDeltas_userQuota (q : Int) (playground : Bool) :
    (accountQuotaRequestedDeltas source q playground).userQuota =
      if source = .wallet then -q else 0 := by
  cases source <;> rfl

/-- The token part of a charge. -/
theorem requestedDeltas_tokenUsed (q : Int) (playground : Bool) :
    (accountQuotaRequestedDeltas source q playground).tokenUsedQuota =
      if source ≠ .free ∧ playground = false then q else 0 := by
  cases source <;> cases playground <;> rfl

theorem requestedDeltas_tokenRemain (q : Int) (playground : Bool) :
    (accountQuotaRequestedDeltas source q playground).tokenRemainQuota =
      -(accountQuotaRequestedDeltas source q playground).tokenUsedQuota := by
  cases source <;> cases playground <;> simp [accountQuotaRequestedDeltas]

/-- The subscription part of a charge. -/
theorem requestedDeltas_subscription (q : Int) (playground : Bool) :
    (accountQuotaRequestedDeltas source q playground).subscriptionAmountUsed =
      if source = .subscription then q else 0 := by
  cases source <;> rfl

end

/-- Settle and refund move the balances by the new cost minus the applied quota. -/
theorem terminalDeltas_eq (reserve : Receipt) (actual : Int) (phase : TerminalPhase) :
    (terminalAccountQuotaDeltas reserve actual phase).1 =
      accountQuotaRequestedDeltas reserve.billingSource
        ((if phase = .settle then actual else 0) - reserve.appliedQuota)
        reserve.billingContext.playground := by
  cases phase with
  | settle => simp [terminalAccountQuotaDeltas]
  | refund =>
    unfold terminalAccountQuotaDeltas accountQuotaRequestedDeltas
    cases reserve.billingSource <;> cases reserve.billingContext.playground <;> simp

theorem User.charge_moves (hc : Chargeable u t s d) : u.Moves (u.charge d) d.userQuota :=
  ⟨rfl, fun _ => ⟨hc.quotaTarget, hc.userUsed⟩⟩

@[simp]
theorem Token.charge_id (t : Token) (d : AccountQuotaDeltas) (now : Int) :
    (t.charge d now).id = t.id := by
  unfold charge
  split <;> rfl

@[simp]
theorem UserSubscription.charge_id (s : UserSubscription) (d : AccountQuotaDeltas) (now : Int) :
    (s.charge d now).id = s.id := by
  unfold charge
  split <;> rfl

theorem Token.charge_moves (now : Int) (hc : Chargeable u t s d)
    (hd : d.tokenRemainQuota = -d.tokenUsedQuota) : t.Moves (t.charge d now) d.tokenUsedQuota := by
  have hr := hc.remainTarget
  have hu := hc.usedTarget
  unfold Token.charge
  split
  · next hz => exact ⟨rfl, by omega, by omega, fun h => h⟩
  · exact ⟨rfl, by rw [hd]; rfl, rfl, fun _ => ⟨hr, hu⟩⟩

theorem subscription_charge_moves {s : UserSubscription} (now : Int)
    (hc : Chargeable u t (some s) d) : s.Moves (s.charge d now) d.subscriptionAmountUsed := by
  unfold UserSubscription.charge
  split
  · next hz => exact ⟨rfl, rfl, by omega, fun h => h⟩
  · next hz =>
    obtain ⟨x, hx, hch⟩ := hc.subscription hz
    cases hx
    exact ⟨rfl, rfl, rfl, fun _ => hch.target⟩

/-- A charge moves exactly the charged rows, each by the part its source prescribes. -/
theorem charge_moves {source : BillingSource} {sid : Int} {playground : Bool} (now : Int)
    (hu : db.users.get? u.id = some u) (ht : db.tokens.get? t.id = some t)
    (hs : ∀ x, s = some x → db.subscriptions.get? x.id = some x ∧ x.id = sid)
    (hc : Chargeable u t s (accountQuotaRequestedDeltas source q playground)) :
    AccountsMove db (db.charge u t s (accountQuotaRequestedDeltas source q playground) now)
      (fun i => if u.id = i ∧ source = .wallet then -q else 0)
      (fun i => if t.id = i ∧ source ≠ .free ∧ playground = false then q else 0)
      (fun i => if sid = i ∧ source = .subscription then q else 0) := by
  refine ⟨?_, ?_, ?_⟩
  · have hm := Table.Moves.put User.Moves.refl hu (User.charge_moves hc) rfl
    rw [requestedDeltas_userQuota] at hm
    simp only [ite_and]
    exact hm
  · have hm := Table.Moves.put Token.Moves.refl ht
      (Token.charge_moves now hc (requestedDeltas_tokenRemain source q playground)) (t.charge_id ..)
    rw [requestedDeltas_tokenUsed] at hm
    rw [show (fun i => if t.id = i ∧ source ≠ .free ∧ playground = false then q else 0) =
      fun i => if t.id = i then (if source ≠ .free ∧ playground = false then q else 0) else 0 from
        funext fun i => ite_and ..]
    exact hm
  · cases s with
    | none =>
      -- without a row the charge cannot have a subscription part
      have hz : (if source = .subscription then q else 0) = 0 := by
        rw [← requestedDeltas_subscription source q playground]
        by_contra hne
        obtain ⟨x, hx, -⟩ := hc.subscription hne
        cases hx
      rw [show (fun i => if sid = i ∧ source = .subscription then q else 0) = fun _ => 0 from
        funext fun i => by rw [ite_and, hz, ite_self]]
      exact Table.Moves.refl UserSubscription.Moves.refl _
    | some x =>
      obtain ⟨hx, rfl⟩ := hs x rfl
      have hm := Table.Moves.put UserSubscription.Moves.refl hx (subscription_charge_moves now hc)
        (x.charge_id ..)
      rw [requestedDeltas_subscription] at hm
      simp only [ite_and]
      exact hm

/-! ### Cost of a reservation -/

/-- What a reservation costs: its applied quota while it is open, the actual quota once it is
settled, nothing once it is refunded. -/
def Head.cost (db : DB) (h : Head) : Int :=
  if h.terminalReceiptID = 0 then h.appliedQuota
  else
    match db.receipts.get? h.terminalReceiptID with
    | some t => if t.phase = .settle then t.requestedQuota else 0
    | none => 0

/-- Whether the billing context of a reservation is a playground context. -/
def Head.playground (db : DB) (h : Head) : Bool :=
  match db.receipts.get? h.currentReceiptID with
  | some c => c.billingContext.playground
  | none => false

/-- Cost of the wallet reservations of a user. -/
def walletCost (db : DB) (userID : Int) : Int :=
  db.heads.sum (fun h => if h.userID = userID ∧ h.billingSource = .wallet then h.cost db else 0)

/-- Cost of the reservations charged to a token. -/
def tokenCost (db : DB) (tokenID : Int) : Int :=
  db.heads.sum (fun h => if h.tokenID = tokenID ∧ h.billingSource ≠ .free ∧
    h.playground db = false then h.cost db else 0)

/-- Cost of the reservations charged to a subscription. -/
def subscriptionCost (db : DB) (id : Int) : Int :=
  db.heads.sum (fun h => if h.subscriptionID = id ∧ h.billingSource = .subscription then
    h.cost db else 0)

theorem HeadOk.cost_grow (hok : HeadOk db h) (hr : ReceiptsGrow db db') :
    h.cost db' = h.cost db := by
  unfold cost
  rcases hok.terminal with ⟨hz, -⟩ | ⟨t, ht, -⟩
  · rw [if_pos hz, if_pos hz]
  · rw [ht, hr _ _ ht]

theorem HeadOk.playground_grow (hok : HeadOk db h) (hr : ReceiptsGrow db db') :
    h.playground db' = h.playground db := by
  obtain ⟨c, hc, -⟩ := hok.current
  unfold playground
  rw [hc, hr _ _ hc]

/-! ### Charges -/

/-- One charge of `q`: the reservation `new`, fresh or an update of `old`, costs `q` more than
before, and the account rows of the reservation moved by `q` and by the logged resets. -/
structure Charge (db db' : DB) (old : Option Head) (new : Head) (q : Int) (log : ResetLog) : Prop where
  grow : ReceiptsGrow db db'
  accounts : AccountsMove db db'
    (fun i => if new.userID = i ∧ new.billingSource = .wallet then -q else 0)
    (fun i => if new.tokenID = i ∧ new.billingSource ≠ .free ∧ new.playground db' = false
      then q else 0)
    (fun i => (if new.subscriptionID = i ∧ new.billingSource = .subscription then q else 0) -
      wiped log i)
  heads : (old = none ∧ db'.heads = db.heads.insert new ∧ new.id = db.heads.nextId) ∨
    ∃ h, old = some h ∧ db.heads.get? new.id = some h ∧ db'.heads = db.heads.put new ∧
      SameReservation h new ∧ new.playground db' = h.playground db
  cost : new.cost db' = (old.map (Head.cost db)).getD 0 + q

/-- No charge: reservations are as before and the account rows moved by the logged resets only. -/
structure Quiet (db db' : DB) (log : ResetLog) : Prop where
  receipts : db'.receipts = db.receipts
  heads : db'.heads = db.heads
  accounts : AccountsMove db db' (fun _ => 0) (fun _ => 0) (fun i => -wiped log i)

theorem Quiet.refl (db : DB) : Quiet db db [] := ⟨rfl, rfl, AccountsMove.refl db⟩

section

variable (hc : Charge db db' old new q log)
include hc

/-- The cost of a class of reservations grows by `q` if the charged one belongs to it. -/
theorem Charge.sum (hw : WF db) (P P' : Head → Prop)
    [DecidablePred P] [DecidablePred P'] (hP : ∀ x ∈ db.heads.rows, P' x ↔ P x)
    (hnew : ∀ h, old = some h → (P' new ↔ P h)) :
    db'.heads.sum (fun h => if P' h then h.cost db' else 0) =
      db.heads.sum (fun h => if P h then h.cost db else 0) + if P' new then q else 0 := by
  have hsame : ∀ x ∈ db.heads.rows,
      (if P' x then x.cost db' else 0) = if P x then x.cost db else 0 := by
    intro x hx
    rw [(hw.head x hx).cost_grow hc.grow]
    simp only [hP x hx]
  have hcost := hc.cost
  rcases hc.heads with ⟨rfl, hins, hid⟩ | ⟨h, rfl, hget, hput, -, -⟩
  · have hrow : Row.withId db.heads.nextId new = new := by
      rw [← hid]
      rfl
    rw [hins, sum_insert, hrow, sum_congr hsame, hcost]
    simp
  · rw [hput, sum_put _ hget, sum_congr hsame, hsame h (get?_mem hget), hcost]
    simp only [hnew h rfl, Option.map_some, Option.getD_some]
    split <;> omega

theorem Charge.same (hold : old = some h) :
    SameReservation h new ∧ new.playground db' = h.playground db := by
  rcases hc.heads with ⟨hn, -⟩ | ⟨h', hs, -, -, hsame⟩
  · cases hn.symm.trans hold
  · cases hs.symm.trans hold
    exact hsame

theorem Charge.walletCost (hw : WF db) (i : Int) :
    walletCost db' i = Ledger.walletCost db i +
      if new.userID = i ∧ new.billingSource = .wallet then q else 0 := by
  refine hc.sum hw _ _ (fun _ _ => Iff.rfl) ?_
  intro h hold
  obtain ⟨hsame, -⟩ := hc.same hold
  rw [hsame.userID, hsame.billingSource]

theorem Charge.tokenCost (hw : WF db) (i : Int) :
    tokenCost db' i = Ledger.tokenCost db i +
      if new.tokenID = i ∧ new.billingSource ≠ .free ∧ new.playground db' = false then q else 0 := by
  refine hc.sum hw _ _ ?_ ?_
  · intro x hx
    rw [(hw.head x hx).playground_grow hc.grow]
  intro h hold
  obtain ⟨hsame, hp⟩ := hc.same hold
  rw [hsame.tokenID, hsame.billingSource, hp]

theorem Charge.subscriptionCost (hw : WF db) (i : Int) :
    subscriptionCost db' i = Ledger.subscriptionCost db i +
      if new.subscriptionID = i ∧ new.billingSource = .subscription then q else 0 := by
  refine hc.sum hw _ _ (fun _ _ => Iff.rfl) ?_
  intro h hold
  obtain ⟨hsame, -⟩ := hc.same hold
  rw [hsame.subscriptionID, hsame.billingSource]

end

/-! ### Every committed change is a charge or quiet -/

theorem AccountsMove.congr {f g k f' g' k' : Int → Int} (h : AccountsMove db db' f g k)
    (hf : ∀ i, f i = f' i) (hg : ∀ i, g i = g' i) (hk : ∀ i, k i = k' i) :
    AccountsMove db db' f' g' k' := by
  rw [← funext hf, ← funext hg, ← funext hk]
  exact h

theorem Head.playground_eq {c : Receipt} (hc : db.receipts.get? h.currentReceiptID = some c) :
    h.playground db = c.billingContext.playground := by
  unfold playground
  rw [hc]

variable {token : Token} {user : User}

theorem reserve_charge {ctx : ReserveCtx} {choice : SourceChoice}
    {applied : Int} (hctx : ctx.Ok) (g : ReserveGuards db env ctx user token choice applied) :
    Charge db (reserveResult db env ctx user token choice applied ps) none
      { reserveHead ctx (reserveStored db env ctx user token choice applied) with
        id := db.heads.nextId } applied choice.log := by
  obtain ⟨heff, hsrc, -, -⟩ := reserveFunding_ok g.funding
  have huid : user.id = ctx.userID := get?_id g.userRow
  have htid : token.id = ctx.tokenID := get?_id g.tokenRow
  have hsub := reserveFunding_stored g.funding
  have hcharge := @charge_moves { db with subscriptions := choice.subscriptions } _ _ _ _ _ _ _
    env.now (get?_own g.userRow) (get?_own g.tokenRow) hsub g.chargeable
  have hmove := (resets_move heff).trans hcharge
  have hget : (reserveResult db env ctx user token choice applied ps).receipts.get?
      db.receipts.nextId = some (reserveStored db env ctx user token choice applied) :=
    get?_insert_nextId _ _
  have hplay : playground (reserveResult db env ctx user token choice applied ps)
      { reserveHead ctx (reserveStored db env ctx user token choice applied) with
        id := db.heads.nextId } = ctx.playground := by
    rw [playground_eq hget]
    exact hctx.playground
  refine ⟨receiptsGrow_insert rfl, ?_, .inl ⟨rfl, rfl, rfl⟩, ?_⟩
  · refine AccountsMove.congr { hmove with } ?_ ?_ ?_
    · intro i
      exact Int.zero_add _
    · intro i
      rw [hplay]
      exact Int.zero_add _
    · intro i
      exact (Int.add_comm _ _).trans Int.sub_eq_add_neg.symm
  · show applied = 0 + applied
    omega

variable {o : Obligation}

theorem extend_charge {ctx : ExtendCtx} {head : Head} {current : Receipt}
    {sub : Option UserSubscription}
    (g : ExtendGuards db env ctx head current user token sub o) :
    Charge db { extendResult db env ctx head current user token sub o with projections := ps }
      (some head)
      { head with currentReceiptID := (extendStored db env ctx head current user token sub).id
                  appliedQuota := ctx.targetQuota, lockVersion := head.lockVersion + 1 }
      (ctx.targetQuota - head.appliedQuota) [] := by
  have huid : user.id = head.userID := get?_id g.userRow
  have htid : token.id = head.tokenID := get?_id g.tokenRow
  have hmove := charge_moves env.now (get?_own g.userRow) (get?_own g.tokenRow)
    (lockSubscription_stored g.subRow) g.chargeable
  have hget : (db.receipts.insert (extendStored db env ctx head current user token sub)).get?
      db.receipts.nextId = some (extendStored db env ctx head current user token sub) :=
    get?_insert_nextId _ _
  have hplay : playground { extendResult db env ctx head current user token sub o with
      projections := ps }
      { head with currentReceiptID := (extendStored db env ctx head current user token sub).id
                  appliedQuota := ctx.targetQuota, lockVersion := head.lockVersion + 1 } =
      current.billingContext.playground :=
    playground_eq (c := extendStored db env ctx head current user token sub) hget
  refine ⟨receiptsGrow_insert rfl, ?_, .inr ⟨head, rfl, headFind_get? g.headRow, rfl,
    ⟨rfl, rfl, rfl, rfl, rfl, rfl, rfl, rfl, rfl⟩, ?_⟩, ?_⟩
  · refine AccountsMove.congr { hmove with } ?_ ?_ ?_
    · intro i
      rw [huid]
    · intro i
      rw [htid, hplay]
    · intro i
      exact (Int.sub_zero _).symm
  · rw [hplay, playground_eq g.currentRow]
  · simp [cost, g.unsettled]

theorem terminal_charge {ctx : TerminalCtx} {l : TerminalLocked}
    (g : TerminalGuards db env ctx l o) :
    Charge db { terminalResult db env ctx l o with projections := ps } (some l.head)
      { l.head with terminalReceiptID := (terminalStored db env ctx l).id
                    lockVersion := l.head.lockVersion + 1 }
      ((if ctx.phase = .settle then ctx.input.actualQuota else 0) - l.head.appliedQuota) [] := by
  have huid : l.user.id = l.head.userID := get?_id g.lock.userRow
  have htid : l.token.id = l.head.tokenID := get?_id g.lock.tokenRow
  have hm := g.lock.current_matches
  have hd : terminalDeltas ctx l = accountQuotaRequestedDeltas l.head.billingSource
      ((if ctx.phase = .settle then ctx.input.actualQuota else 0) - l.head.appliedQuota)
      l.current.billingContext.playground := by
    rw [terminalDeltas, terminalDeltas_eq, hm.billingSource, hm.appliedQuota]
  have hchg := g.chargeable
  rw [hd] at hchg
  have hmove := charge_moves env.now (get?_own g.lock.userRow) (get?_own g.lock.tokenRow)
    (lockSubscription_stored g.lock.subRow) hchg
  rw [← hd] at hmove
  have hgrow : ReceiptsGrow db { terminalResult db env ctx l o with projections := ps } :=
    receiptsGrow_insert rfl
  have hget : (db.receipts.insert (terminalStored db env ctx l)).get? db.receipts.nextId =
      some (terminalStored db env ctx l) := get?_insert_nextId _ _
  have hplay : playground { terminalResult db env ctx l o with projections := ps }
      { l.head with terminalReceiptID := (terminalStored db env ctx l).id
                    lockVersion := l.head.lockVersion + 1 } =
      l.current.billingContext.playground := playground_eq (hgrow _ _ g.lock.currentRow)
  refine ⟨hgrow, ?_, .inr ⟨l.head, rfl, headFind_get? g.lock.headRow, rfl,
    ⟨rfl, rfl, rfl, rfl, rfl, rfl, rfl, rfl, rfl⟩, ?_⟩, ?_⟩
  · refine AccountsMove.congr { hmove with } ?_ ?_ ?_
    · intro i
      rw [huid]
    · intro i
      rw [htid, hplay]
    · intro i
      exact (Int.sub_zero _).symm
  · rw [hplay, playground_eq g.lock.currentRow]
  · have hnext := db.receipts.pos
    have hne : (terminalStored db env ctx l).id ≠ 0 := by
      show db.receipts.nextId ≠ 0
      omega
    have hcost : cost { terminalResult db env ctx l o with projections := ps }
        { l.head with terminalReceiptID := (terminalStored db env ctx l).id
                      lockVersion := l.head.lockVersion + 1 } =
        if ctx.phase = .settle then ctx.input.actualQuota else 0 := by
      unfold cost
      rw [if_neg hne]
      erw [hget]
      cases hp : ctx.phase <;>
        simp [terminalStored, terminalReceipt, Receipt.storedAs, TerminalPhase.toPhase, hp]
    rw [hcost]
    simp [cost, g.unsettled]

/-- Every committed change is a charge of one reservation or leaves the reservations alone. -/
theorem Commit.charge (hc : Commit db db' log) :
    Quiet db db' log ∨ ∃ old new q, Charge db db' old new q log := by
  cases hc.written with
  | kept => exact .inl (Quiet.refl _)
  | reserved ok g => exact .inr ⟨_, _, _, reserve_charge ok g⟩
  | extended _ g => exact .inr ⟨_, _, _, extend_charge g⟩
  | finished _ g => exact .inr ⟨_, _, _, terminal_charge g⟩
  | moved =>
    exact .inl ⟨rfl, rfl, (AccountsMove.refl db).users, (AccountsMove.refl db).tokens,
      (AccountsMove.refl db).subscriptions⟩
  | reset h => exact .inl ⟨rfl, rfl, resets_move h⟩

/-- A commit moves the account rows against the cost of their reservations. -/
theorem Commit.accounts (hw : WF db) (hc : Commit db db' log) :
    AccountsMove db db' (fun i => walletCost db i - walletCost db' i)
      (fun i => tokenCost db' i - tokenCost db i)
      (fun i => subscriptionCost db' i - subscriptionCost db i - wiped log i) := by
  rcases hc.charge with hq | ⟨old, new, q, hq⟩
  · have hcost : ∀ x : Head, x.cost db' = x.cost db := fun x => by
      unfold cost; rw [hq.receipts]
    have hplay : ∀ x : Head, x.playground db' = x.playground db := fun x => by
      unfold playground; rw [hq.receipts]
    refine hq.accounts.congr ?_ ?_ ?_
    · simp [walletCost, hq.heads, hcost]
    · simp [tokenCost, hq.heads, hcost, hplay]
    · simp [subscriptionCost, hq.heads, hcost]
  · refine hq.accounts.congr ?_ ?_ ?_
    · intro i
      rw [hq.walletCost hw i]
      split <;> omega
    · intro i
      rw [hq.tokenCost hw i]
      omega
    · intro i
      rw [hq.subscriptionCost hw i]
      omega

/-! ### Runs -/

/-- The account rows have moved by the cost of all reservations and by the logged resets. -/
def Balanced (db₀ db : DB) (log : ResetLog) : Prop :=
  AccountsMove db₀ db (fun i => -walletCost db i) (tokenCost db)
    (fun i => subscriptionCost db i - wiped log i)

theorem Balanced.commit {db₀ : DB} {log' : ResetLog} (hw : WF db) (h : Balanced db₀ db log)
    (hc : Commit db db' log') : Balanced db₀ db' (log ++ log') := by
  refine (h.trans (hc.accounts hw)).congr ?_ ?_ ?_ <;> intro i
  · omega
  · omega
  · rw [wiped_append]
    omega

theorem balanced_initial (h : EmptyLedger db) : Balanced db db [] := by
  have hsum : ∀ f : Head → Int, db.heads.sum f = 0 := fun f => by simp [sum, h.heads]
  refine (AccountsMove.refl db).congr ?_ ?_ ?_
  · simp [walletCost, hsum]
  · simp [tokenCost, hsum]
  · simp [subscriptionCost, hsum]

/-- Conservation. In every interleaving of ledger calls, recovery workers and resets, a wallet has
fallen by the cost of its wallet reservations, a token has been charged the cost of its
reservations, and the used amount of a subscription has risen by the cost of its reservations
minus what resets cleared. -/
theorem quota_conserved {w₀ w : World} (h : w₀.ReachableFrom w) :
    (∀ i u₀, w₀.db.users.get? i = some u₀ →
      ∃ u, w.db.users.get? i = some u ∧ u.quota = u₀.quota - walletCost w.db i) ∧
    (∀ i t₀, w₀.db.tokens.get? i = some t₀ →
      ∃ t, w.db.tokens.get? i = some t ∧ t.remainQuota = t₀.remainQuota - tokenCost w.db i ∧
        t.usedQuota = t₀.usedQuota + tokenCost w.db i) ∧
    (∀ i s₀, w₀.db.subscriptions.get? i = some s₀ →
      ∃ s, w.db.subscriptions.get? i = some s ∧
        s.amountUsed = s₀.amountUsed + subscriptionCost w.db i - wiped w.resets i) := by
  have hb := h.invariant (Balanced w₀.db) (balanced_initial h.1.ledger) fun _ _ _ _ hw hb => hb.commit hw
  refine ⟨?_, ?_, ?_⟩
  · intro i u₀ hu
    obtain ⟨u, hget, hm⟩ := hb.users i u₀ hu
    exact ⟨u, hget, by rw [hm.quota]; exact Int.sub_eq_add_neg.symm⟩
  · intro i t₀ ht
    obtain ⟨t, hget, hm⟩ := hb.tokens i t₀ ht
    exact ⟨t, hget, hm.remainQuota, hm.usedQuota⟩
  · intro i s₀ hs
    obtain ⟨s, hget, hm⟩ := hb.subscriptions i s₀ hs
    exact ⟨s, hget, by rw [hm.amountUsed]; exact (Int.add_sub_assoc ..).symm⟩

/-- A reservation of 10 on the subscription, raised to 20 and settled with 12, and one of 30 on
the wallet. -/
def spendingRun : List Action :=
  smoothCall 0 (.reserve { requestID := "r1", userID := 1, tokenID := 1, requestedQuota := 10
                           billingPreference := "subscription_only" }) 200000 ++
  smoothCall 1 (.extend 1 20) 200001 ++
  smoothCall 2 (.settle { requestID := "r1", reserveReceiptID := 1, actualQuota := 12 }) 200002 ++
  smoothCall 3 (.reserve { requestID := "r2", userID := 1, tokenID := 1, requestedQuota := 30
                           billingPreference := "wallet_only" }) 200003

theorem quota_conserved_spendingRun :
    plainWorld.ReachableFrom (plainRun spendingRun) ∧
      walletCost (plainRun spendingRun).db 1 = 30 ∧ tokenCost (plainRun spendingRun).db 1 = 42 ∧
      subscriptionCost (plainRun spendingRun).db 1 = 12 ∧
      wiped (plainRun spendingRun).resets 1 = 5 ∧
      ∃ u, (plainRun spendingRun).db.users.get? 1 = some u ∧
        u.quota = 1000 - walletCost (plainRun spendingRun).db 1 := by
  have hrun : (run World.step plainWorld spendingRun).isSome = true ∧
      walletCost (plainRun spendingRun).db 1 = 30 ∧ tokenCost (plainRun spendingRun).db 1 = 42 ∧
      subscriptionCost (plainRun spendingRun).db 1 = 12 ∧
      wiped (plainRun spendingRun).resets 1 = 5 := by decide +kernel
  have hreach := plainRun_reachable hrun.1
  exact ⟨hreach, hrun.2.1, hrun.2.2.1, hrun.2.2.2.1, hrun.2.2.2.2,
    (quota_conserved hreach).1 1 { id := 1, quota := 1000 } rfl⟩

/-- Without the cleared amounts the subscription part fails: a reserve that selects a subscription
whose period ended clears its used amount first, so here the amount rises from 5 to 10 although
the only reservation costs 10. -/
theorem subscription_rise_ne_cost :
    ∃ w, plainWorld.ReachableFrom w ∧
      (plainWorld.db.subscriptions.get? 1).map UserSubscription.amountUsed = some 5 ∧
      (w.db.subscriptions.get? 1).map UserSubscription.amountUsed = some 10 ∧
      subscriptionCost w.db 1 = 10 :=
  ⟨plainRun (spendingRun.take 3), plainRun_reachable (by decide +kernel), by decide +kernel,
    by decide +kernel, by decide +kernel⟩

end MyApiSpec.Ledger
