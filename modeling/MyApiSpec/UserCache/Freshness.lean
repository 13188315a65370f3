import Mathlib.Logic.Relation
import MyApiSpec.UserCache.Calls

/-!
# What readers of the cached user see

A committed authentication version may be known to Redis only through the pending fence of its increment: the
publication behind the commit may never run. A hash with an older version must then expire before the fence
does. That holds of every hash that was there when the fence was set, but `hydrateUserQuotaCacheScript` renews
the life of the hash without a look at the fence. In runs whose projections find no fence above the hash, and
in which no transaction, fill or read outlasts the fences, readers see every version that was committed before
they started.
-/

namespace MyApiSpec.UserCache

open Base Relation List Option World

/-! ### Floors -/

variable {n now : Int} {l l' : Phase}

/-- Until `deadline` a version is below the floor or below the fence. -/
def World.Barred (w : World) (version deadline : Int) : Prop :=
  version < w.redis.floor ∨ ∃ f, live w.redis.fence deadline = some f ∧ version < f.value

variable {f : Expiring Int} {w : World}

theorem World.pending_eq (h : live w.redis.fence w.now = some f) :
    w.redis.pending w.now = f.value :=
  liveD_of_live h 0

theorem World.live_of_pending (h : 0 < w.redis.pending w.now) :
    ∃ f, live w.redis.fence w.now = some f ∧ f.value = w.redis.pending w.now := by
  cases hlive : live w.redis.fence w.now with
  | none =>
    rw [Redis.pending, liveD_of_none hlive] at h
    omega
  | some f => exact ⟨f, rfl, (pending_eq hlive).symm⟩

/-- A reader that finds no floor above a version is not barred from it. -/
theorem World.not_barred {version : Int} (h : w.floor ≤ version) : ¬ w.Barred version w.now := by
  unfold floor at h
  rintro (hb | ⟨f, hlive, hb⟩)
  · omega
  · have := pending_eq hlive
    omega

/-- What the hash, the fence and the versions satisfy. -/
structure Sound (s : Settings) (w : World) : Prop where
  hash : ∀ h, w.redis.hash = some h → ∃ e, h.expiresAt = some e ∧ e ≤ w.now + s.hashLife
  fence : ∀ f, w.redis.fence = some f → ∃ e, f.expiresAt = some e ∧ e ≤ w.now + s.hashLife + s.margin
  outlives : ∀ h f eh ef, w.redis.hash = some h → h.expiresAt = some eh → live w.redis.fence w.now = some f →
    f.expiresAt = some ef → h.value.authVersion < f.value → eh + s.margin ≤ ef
  barred : ∀ h, live w.redis.hash w.now = some h → h.value.authVersion < w.version →
    w.Barred h.value.authVersion w.now
  uncommitted : ∀ n, w.uncommitted = some n → w.version < n ∧ 0 < n

theorem Settings.margin_pos (s : Settings) : 0 < s.margin := by
  unfold Settings.margin Settings.extraSeconds
  split <;> omega

theorem Settings.fenceLife (s : Settings) : 1000 * s.userAuthFenceTTLSeconds = s.hashLife + s.margin := by
  unfold Settings.userAuthFenceTTLSeconds Settings.hashLife Settings.margin
  omega

variable {key : Option (Expiring α)} {e : Expiring α} {α : Type} {t : Int}

theorem expires_of_live
    (h : live key now = some e) (ht : e.expiresAt = some t) : now < t := by
  obtain ⟨-, halive⟩ := live_eq_some.mp h
  obtain ⟨v, x⟩ := e
  obtain rfl : x = some t := ht
  exact alive_some.mp halive

theorem live_of_expires
    (h : key = some e) (ht : e.expiresAt = some t) (hlt : now < t) : live key now = some e := by
  obtain ⟨v, x⟩ := e
  obtain rfl : x = some t := ht
  exact live_eq_some.mpr ⟨h, alive_some.mpr hlt⟩

variable {h : Expiring UserBase}

/-- A stale hash is barred for longer than it lives. -/
theorem Sound.covers {s : Settings} (hw : Sound s w) {e d : Int}
    (hlive : live w.redis.hash w.now = some h) (he : h.expiresAt = some e)
    (hstale : h.value.authVersion < w.version) (hd : d < e + s.margin) :
    w.Barred h.value.authVersion d := by
  rcases hw.barred h hlive hstale with hb | ⟨f, hf, hb⟩
  · exact .inl hb
  · have hkey := (live_eq_some.mp hf).1
    obtain ⟨ef, hef, -⟩ := hw.fence f hkey
    have hle := hw.outlives h f e ef (live_eq_some.mp hlive).1 he hf hef hb
    exact .inr ⟨f, live_of_expires hkey hef (by omega), hb⟩

/-! ### Changes -/

/-- The changes that keep the floors above every stale hash. -/
inductive Change (s : Settings) (w : World) : World → Prop
  | elapse (d : Nat) : Change s w { w with now := w.now + d }
  | around (e : Option Int) (o : Option String) :
    Change s w { w with redis := { w.redis with epoch := e, owner := o } }
  | drop : Change s w { w with redis := { w.redis with hash := none } }
  | rewrite {h : Expiring UserBase} (u : UserBase) (hlive : live w.redis.hash w.now = some h)
    (hversion : u.authVersion = h.value.authVersion) :
    Change s w { w with redis := { w.redis with hash := some ⟨u, h.expiresAt⟩ } }
  | renew (u : UserBase)
    (hversion : w.version ≤ u.authVersion ∨
      ∃ h, live w.redis.hash w.now = some h ∧ u.authVersion = h.value.authVersion)
    (hfence : ∀ f, live w.redis.fence w.now = some f → f.value ≤ u.authVersion) :
    Change s w { w with redis := { w.redis with hash := some ⟨u, some (w.now + s.hashLife)⟩ } }
  | fence (v : Int) (hv : ∀ f, live w.redis.fence w.now = some f → f.value ≤ v) :
    Change s w { w with redis := { w.redis with fence := some ⟨v, some (w.now + (s.hashLife + s.margin))⟩ } }
  | publish (v : Int) : Change s w { w with redis := w.redis.commit w.now v }
  | lock (n : Int) (hn : w.version < n) (hpos : 0 < n) : Change s w { w with uncommitted := some n }
  | unlock : Change s w { w with uncommitted := none }
  | commit (n : Int) (hn : w.uncommitted = some n) (hfloor : n ≤ w.redis.pending w.now ∨ n ≤ w.redis.floor) :
    Change s w { w with version := n, uncommitted := none }

theorem floor_commit (r : Redis) (now v : Int) : (r.commit now v).floor = max r.floor v := by
  show (if r.floor < v then some v else r.committed).getD 0 = max r.floor v
  split
  · show v = max r.floor v
    omega
  · show r.floor = max r.floor v
    omega

variable {s : Settings} {w w' : World} {v d : Int}

theorem Change.now_le (h : Change s w w') : w.now ≤ w'.now := by
  cases h with
  | elapse d =>
    show w.now ≤ w.now + d
    omega
  | _ => exact le_rfl

theorem Change.version_le (hw : Sound s w) (h : Change s w w') : w.version ≤ w'.version := by
  cases h with
  | commit n hn => exact (hw.uncommitted n hn).1.le
  | _ => exact le_rfl

/-- What is barred stays so until the deadline: a fence gives way to a longer one or to the floor. -/
theorem Change.barred (hw : Sound s w) (h : Change s w w') (hd : w'.now ≤ d) (hb : w.Barred v d) :
    w'.Barred v d := by
  have hnow : w.now ≤ d := h.now_le.trans hd
  cases h with
  | fence u hu =>
    rcases hb with hb | ⟨f, hf, hb⟩
    · exact .inl hb
    · obtain ⟨e, he, hle⟩ := hw.fence f (live_eq_some.mp hf).1
      have hlt := expires_of_live hf he
      have := hu f (live_earlier hnow hf)
      exact .inr ⟨_, live_of_expires rfl rfl (by omega), by show v < u; omega⟩
  | publish u =>
    rcases hb with hb | ⟨f, hf, hb⟩
    · refine .inl ?_
      rw [floor_commit]
      omega
    · have hpending := pending_eq (live_earlier hnow hf)
      by_cases hremoved : w.redis.pending w.now ≠ 0 ∧ w.redis.pending w.now ≤ u
      · refine .inl ?_
        rw [floor_commit]
        omega
      · exact .inr ⟨f, by simpa only [Redis.commit, if_neg hremoved] using hf, hb⟩
  | _ => exact hb

theorem Sound.elapse (hw : Sound s w) (d : Nat) : Sound s { w with now := w.now + d } where
  hash h hh := by
    obtain ⟨e, he, hle⟩ := hw.hash h hh
    exact ⟨e, he, by dsimp only; omega⟩
  fence f hf := by
    obtain ⟨e, he, hle⟩ := hw.fence f hf
    exact ⟨e, he, by dsimp only; omega⟩
  outlives h f eh ef hh heh hf :=
    hw.outlives h f eh ef hh heh (live_earlier (show w.now ≤ w.now + d by omega) hf)
  barred h hlive hstale := by
    obtain ⟨e, he, -⟩ := hw.hash h (live_eq_some.mp hlive).1
    have hlt := expires_of_live hlive he
    have := s.margin_pos
    exact hw.covers (live_earlier (show w.now ≤ w.now + d by omega) hlive) he hstale (by omega)
  uncommitted := hw.uncommitted

variable {u : UserBase}

section

variable (hw : Sound s w)
include hw

theorem Sound.rewrite
    (hlive : live w.redis.hash w.now = some h) (hversion : u.authVersion = h.value.authVersion) :
    Sound s { w with redis := { w.redis with hash := some ⟨u, h.expiresAt⟩ } } where
  hash h' hh' := by
    cases hh'
    exact hw.hash h (live_eq_some.mp hlive).1
  fence := hw.fence
  outlives h' f eh ef hh' heh hf hef hlt := by
    cases hh'
    exact hw.outlives h f eh ef (live_eq_some.mp hlive).1 heh hf hef (hversion ▸ hlt)
  barred h' hlive' hstale := by
    cases (live_eq_some.mp hlive').1
    have hb := hw.barred h hlive (hversion ▸ hstale)
    rwa [← hversion] at hb
  uncommitted := hw.uncommitted

theorem Sound.renew
    (hversion : w.version ≤ u.authVersion ∨
      ∃ h, live w.redis.hash w.now = some h ∧ u.authVersion = h.value.authVersion)
    (hfence : ∀ f, live w.redis.fence w.now = some f → f.value ≤ u.authVersion) :
    Sound s { w with redis := { w.redis with hash := some ⟨u, some (w.now + s.hashLife)⟩ } } where
  hash h' hh' := by
    cases hh'
    exact ⟨_, rfl, le_rfl⟩
  fence := hw.fence
  outlives h' f eh ef hh' _ hf _ hlt := by
    cases hh'
    have := hfence f hf
    dsimp only at hlt
    omega
  barred h' hlive' hstale := by
    cases (live_eq_some.mp hlive').1
    rcases hversion with hle | ⟨h, hlive, heq⟩
    · dsimp only at hstale
      omega
    · have hb := hw.barred h hlive (heq ▸ hstale)
      rwa [← heq] at hb
  uncommitted := hw.uncommitted

theorem Sound.fenced {u : Int} (hu : ∀ f, live w.redis.fence w.now = some f → f.value ≤ u) :
    Sound s { w with redis := { w.redis with fence := some ⟨u, some (w.now + (s.hashLife + s.margin))⟩ } } where
  hash := hw.hash
  fence f hf := by
    cases hf
    exact ⟨_, rfl, by dsimp only; omega⟩
  outlives h f eh ef hh heh hf hef _ := by
    cases (live_eq_some.mp hf).1
    obtain ⟨e, he, hle⟩ := hw.hash h hh
    cases he.symm.trans heh
    cases hef
    omega
  barred h hlive hstale := (Change.fence u hu).barred hw le_rfl (hw.barred h hlive hstale)
  uncommitted := hw.uncommitted

theorem Sound.published (u : Int) : Sound s { w with redis := w.redis.commit w.now u } := by
  have hkey : ∀ f, (w.redis.commit w.now u).fence = some f → w.redis.fence = some f := by
    intro f hf
    simp only [Redis.commit] at hf
    split at hf
    · cases hf
    · exact hf
  refine ⟨hw.hash, fun f hf => hw.fence f (hkey f hf), ?_, ?_, hw.uncommitted⟩
  · intro h f eh ef hh heh hf
    obtain ⟨hf, halive⟩ := live_eq_some.mp hf
    exact hw.outlives h f eh ef hh heh (live_eq_some.mpr ⟨hkey f hf, halive⟩)
  · intro h hlive hstale
    exact (Change.publish u).barred hw le_rfl (hw.barred h hlive hstale)

theorem Sound.committed (hn : w.uncommitted = some n)
    (hfloor : n ≤ w.redis.pending w.now ∨ n ≤ w.redis.floor) :
    Sound s { w with version := n, uncommitted := none } where
  hash := hw.hash
  fence := hw.fence
  outlives := hw.outlives
  barred h _ hstale := by
    dsimp only at hstale
    rcases hfloor with hle | hle
    · have := (hw.uncommitted n hn).2
      obtain ⟨f, hf, heq⟩ := live_of_pending (w := w) (by omega)
      exact .inr ⟨f, hf, by omega⟩
    · exact .inl (show _ < w.redis.floor by omega)
  uncommitted m hm := by cases hm

theorem Sound.dropped : Sound s { w with redis := { w.redis with hash := none } } where
  hash h hh := by cases hh
  fence := hw.fence
  outlives h f eh ef hh := by cases hh
  barred h hlive := by cases hlive
  uncommitted := hw.uncommitted

theorem Change.sound (h : Change s w w') : Sound s w' := by
  cases h with
  | elapse d => exact hw.elapse d
  | around e o => exact { hw with }
  | drop => exact hw.dropped
  | rewrite u hlive hversion => exact hw.rewrite hlive hversion
  | renew u hversion hfence => exact hw.renew hversion hfence
  | fence u hu => exact hw.fenced hu
  | publish u => exact hw.published u
  | lock n hn hpos =>
    refine { hw with uncommitted := fun m hm => ?_ }
    cases hm
    exact ⟨hn, hpos⟩
  | unlock =>
    refine { hw with uncommitted := fun m hm => ?_ }
    cases hm
  | commit n hn hfloor => exact hw.committed hn hfloor

end

/-- What a sequence of changes keeps. -/
structure Later (s : Settings) (w w' : World) : Prop where
  sound : Sound s w'
  now : w.now ≤ w'.now
  version : w.version ≤ w'.version
  barred : ∀ v d, w'.now ≤ d → w.Barred v d → w'.Barred v d

theorem Sound.later (hw : Sound s w) (h : ReflTransGen (Change s) w w') : Later s w w' := by
  induction h with
  | refl => exact ⟨hw, le_rfl, le_rfl, fun _ _ _ hb => hb⟩
  | tail _ hstep ih =>
    refine ⟨hstep.sound ih.sound, ih.now.trans hstep.now_le, ih.version.trans (hstep.version_le ih.sound), ?_⟩
    intro v d hd hb
    exact hstep.barred ih.sound hd (ih.barred v d (hstep.now_le.trans hd) hb)

/-! ### Scripts -/

variable {c : Choice}

theorem World.script_changes {f : Redis → Redis}
    (h : ReflTransGen (Change s) w { w with redis := f w.redis }) : ReflTransGen (Change s) w (w.script c f) := by
  unfold script
  split
  · exact .refl
  · exact h

theorem fenceScript_changes (hw : Sound s w) (v : Int) :
    ReflTransGen (Change s) w { w with redis := fenceScript s w.now v w.redis } := by
  have hfence : w.redis.pending w.now ≤ v → ReflTransGen (Change s) w
      { w with redis := { w.redis with fence := some ⟨v, some (w.now + 1000 * s.userAuthFenceTTLSeconds)⟩ } } := by
    intro hle
    rw [s.fenceLife]
    exact .single (.fence v fun f hf => pending_eq hf ▸ hle)
  simp only [fenceScript]
  split
  case isTrue hlt => exact hfence hlt.le
  split
  case isTrue heq => exact hfence heq.le
  split
  case h_2 => exact .refl
  case h_1 f hf =>
    -- every fence has an expiry
    obtain ⟨e, he, -⟩ := hw.fence f (live_eq_some.mp hf).1
    rw [he, if_neg (by simp)]

theorem epoch_changes (w : World) (e : Option Int) :
    ReflTransGen (Change s) w { w with redis := { w.redis with epoch := e } } :=
  .single (.around e w.redis.owner)

/-- A projection renews the hash, which is safe when no fence is above it. -/
theorem hydrateScript_changes (p : Projection)
    (hfence : ∀ h, live w.redis.hash w.now = some h → w.redis.pending w.now ≤ h.value.authVersion) :
    ReflTransGen (Change s) w { w with redis := hydrateScript s w.now p w.redis } := by
  have hrenew : ∀ h (u : UserBase), live w.redis.hash w.now = some h → u.authVersion = h.value.authVersion →
      Change s w { w with redis := { w.redis with hash := some ⟨u, some (w.now + s.hashLife)⟩ } } := by
    intro h u hlive heq
    refine .renew u (.inr ⟨h, hlive, heq⟩) fun f hf => ?_
    have := hfence h hlive
    rw [pending_eq hf] at this
    omega
  unfold hydrateScript
  split
  · exact .refl
  split
  · exact .refl
  case h_2 h hlive =>
    split
    · exact .refl
    split
    · exact .single .drop
    split
    · exact .refl
    split
    · exact .refl
    split
    · exact .single (hrenew h h.value hlive rfl)
    · let u : UserBase := { h.value with
        quota := p.quota
        quotaVersion := p.quotaVersion
        quotaWriterEpoch := p.writerEpoch }
      exact (ReflTransGen.single (hrenew h u hlive rfl)).trans (epoch_changes _ _)

theorem quotaScript_changes (delta : Int) (reserve : Bool) (epoch : Int) :
    ReflTransGen (Change s) w { w with redis := quotaScript s w.now delta reserve epoch w.redis } := by
  unfold quotaScript
  split
  · exact .refl
  case h_2 h hlive =>
    split
    · exact .refl
    · exact (ReflTransGen.single (.rewrite { h.value with quota := h.value.quota + delta } hlive rfl)).trans
        (epoch_changes _ _)

theorem Field.authVersion_write (f : Field) (u : UserBase) : (f.write u).authVersion = u.authVersion := by
  cases f <;> rfl

theorem fieldScript_changes (f : Field) (v : Int) :
    ReflTransGen (Change s) w { w with redis := fieldScript s w.now f v w.redis } := by
  unfold fieldScript
  split
  case h_1 h hlive =>
    split
    · exact .refl
    split
    · exact .single .drop
    split
    · exact .refl
    split
    · exact .refl
    split
    · exact .single (.publish v)
    · let published : World := { w with redis := w.redis.commit w.now v }
      have hwrite : Change s published
          { published with redis := { published.redis with hash := some ⟨f.write h.value, h.expiresAt⟩ } } :=
        .rewrite (f.write h.value) hlive (f.authVersion_write h.value)
      exact (ReflTransGen.single (.publish v)).tail hwrite
  case h_2 =>
    split
    · exact .refl
    · exact .single (.publish v)

theorem Write.authVersion_onto (wr : Write) (u : UserBase) : (wr.onto u).authVersion = wr.user.authVersion := by
  unfold Write.onto
  split <;> rfl

theorem Write.newHash_cases (wr : Write) (now : Int) (h : Option (Expiring UserBase)) :
    wr.newHash s now h = none ∨
      ∃ u, wr.newHash s now h = some ⟨u, some (now + s.hashLife)⟩ ∧ u.authVersion = wr.user.authVersion := by
  unfold Write.newHash
  split
  case h_1 h _ => exact .inr ⟨_, rfl, wr.authVersion_onto h.value⟩
  case h_2 =>
    split
    · exact .inr ⟨_, rfl, rfl⟩
    · exact .inl rfl

variable {r : Redis} {wr : Write}

theorem writeChecks_ok {a : Unit} (h : writeChecks r now wr = .ok a) :
    r.pending now ≤ wr.user.authVersion ∧ r.floor ≤ wr.user.authVersion := by
  obtain ⟨-, -, h⟩ := bind_eq_ok.mp h
  obtain ⟨-, -, h⟩ := bind_eq_ok.mp h
  obtain ⟨-, -, h⟩ := bind_eq_ok.mp h
  obtain ⟨-, -, h⟩ := bind_eq_ok.mp h
  obtain ⟨_, hfloors, -⟩ := bind_eq_ok.mp h
  have hfloors := check_eq_ok.mp hfloors
  exact ⟨hfloors.1, hfloors.2.1⟩

/-- Behind a publication the fence is above the published version or gone. -/
theorem live_fence_commit
    (hf : live (r.commit now v).fence now = some f) (hle : r.pending now ≤ v) : f.value ≤ v := by
  obtain ⟨hkey, halive⟩ := live_eq_some.mp hf
  simp only [Redis.commit] at hkey
  split at hkey
  · cases hkey
  · have := liveD_of_live (live_eq_some.mpr ⟨hkey, halive⟩) 0
    rw [Redis.pending] at hle
    omega

/-- A write that is not refused stores a version at or above the committed one. -/
theorem writeScript_changes
    (hfresh : w.version ≤ wr.user.authVersion ∨ wr.user.authVersion < w.redis.pending w.now ∨
      wr.user.authVersion < w.redis.floor) :
    ReflTransGen (Change s) w { w with redis := (writeScript s w.now wr w.redis).1 } := by
  unfold writeScript
  split
  · exact .refl
  case h_2 hok =>
    obtain ⟨hpending, hfloor⟩ := writeChecks_ok hok
    have hversion : w.version ≤ wr.user.authVersion := by omega
    have hpublish : ReflTransGen (Change s) w { w with redis := w.redis.commit w.now wr.user.authVersion } :=
      .single (.publish _)
    rcases wr.newHash_cases (s := s) w.now (live w.redis.hash w.now) with hnone | ⟨u, hsome, hu⟩
    · rw [hnone]
      exact (hpublish.tail .drop).trans (epoch_changes _ _)
    · rw [hsome]
      refine (hpublish.tail (.renew u (.inl (hu ▸ hversion)) fun f hf => ?_)).trans (epoch_changes _ _)
      exact hu ▸ live_fence_commit hf hpending

/-! ### Steps -/

/-- What the next action of a call may find: a projection no fence above the hash; a commit its fence or a floor
in its place; a write no newer committed version that neither fence nor floor tells; and the floors are read
while the fences that covered the hash are there. -/
def Timely (s : Settings) (w : World) : Phase → Prop
  | .hydrating _ => ∀ h ∈ live w.redis.hash w.now, w.redis.pending w.now ≤ h.value.authVersion
  | .deciding next => next ≤ w.redis.pending w.now ∨ next ≤ w.redis.floor
  | .writing _ wr => w.version ≤ wr.user.authVersion ∨ wr.user.authVersion < w.redis.pending w.now ∨
      wr.user.authVersion < w.redis.floor
  | .measuring _ _ readAt => w.now ≤ readAt + s.margin
  | _ => True

instance (s : Settings) (w : World) (l : Phase) : Decidable (Timely s w l) := by
  unfold Timely
  split <;> infer_instance

/-- The move finds what it may find. -/
def TimelyMove (s : Settings) (c : Config World Phase) : Move Choice Job → Prop
  | .start _ => True
  | .act k _ => ∀ l ∈ c.locals[k]?, Timely s c.shared l

instance (s : Settings) (c : Config World Phase) : (mv : Move Choice Job) → Decidable (TimelyMove s c mv)
  | .start _ => isTrue trivial
  | .act k _ => inferInstanceAs (Decidable (∀ l ∈ c.locals[k]?, Timely s c.shared l))

theorem stepEvent_changes (e : Event) : ReflTransGen (Change s) w (stepEvent w e) := by
  cases e with
  | elapse d => exact .single (.elapse d)
  | setEpoch e => exact .single (.around e w.redis.owner)
  | setOwner o => exact .single (.around w.redis.epoch o)
  | invalidate => exact .single .drop

theorem lt_nextVersion (stored : Int) : stored < nextVersion stored ∧ 0 < nextVersion stored := by
  unfold nextVersion
  split <;> omega

theorem stepUpdating_changes {tries : Nat} {stored : Int}
    (h : stepUpdating w c tries stored = some (w', l')) : ReflTransGen (Change s) w w' := by
  unfold stepUpdating at h
  split at h
  · cases h
  split at h
  · cases h
    exact .refl
  split at h
  case isTrue heq =>
    cases h
    have := lt_nextVersion stored
    exact .single (.lock _ (heq ▸ this.1) this.2)
  case isFalse =>
    cases h
    exact .refl

theorem stepDeciding_changes {next : Int}
    (hfloor : next ≤ w.redis.pending w.now ∨ next ≤ w.redis.floor)
    (h : stepDeciding w c next = some (w', l')) : ReflTransGen (Change s) w w' := by
  unfold stepDeciding at h
  split at h
  · cases h
  case isFalse hn =>
    split at h <;> cases h
    · exact .single (.commit next (not_not.mp hn) hfloor)
    · exact .single .unlock

theorem stepCall_changes (hw : Sound s w) (ht : Timely s w l)
    (h : stepCall s w l c = some (w', l')) : ReflTransGen (Change s) w w' := by
  cases l with
  | surroundings =>
    cases h
    exact stepEvent_changes c.event
  | fencing tries stored =>
    cases h
    exact script_changes (fenceScript_changes hw _)
  | updating tries stored => exact stepUpdating_changes h
  | deciding next => exact stepDeciding_changes ht h
  | promoting next =>
    cases h
    exact script_changes (.single (.publish next))
  | writing after wr =>
    cases h
    exact script_changes (f := fun r => (writeScript s w.now wr r).1) (writeScript_changes ht)
  | hydrating p =>
    cases h
    exact script_changes (hydrateScript_changes p ht)
  | adjusting delta reserve epoch =>
    cases h
    exact script_changes (quotaScript_changes delta reserve epoch)
  | setting field version =>
    cases h
    exact script_changes (fieldScript_changes field version)
  | discarding started =>
    cases h
    exact script_changes (f := fun r => { r with hash := none }) (.single .drop)
  | answered started result => cases h
  | finished => cases h
  | _ =>
    cases h
    exact .refl

/-! ### Readers -/

/-- The committed version at the start of a reader. -/
def After.started : After → Option Int
  | .finish => none
  | .answer started _ => some started

/-- The committed version at the start of a reader. -/
def Phase.started : Phase → Option Int
  | .probing started | .comparing started _ _ | .measuring started _ _ | .discarding started
  | .falling started | .flooring started _ | .answered started _ => some started
  | .stamping after _ | .writing after _ => after.started
  | _ => none

theorem After.started_resume (after : After) (e : Option Error)
    (h : (after.resume e).started = some n) : after.started = some n := by
  cases after with
  | finish => cases h
  | answer started user => rcases e with _ | _ | _ <;> exact h

/-- A call keeps its start. -/
theorem started_stepCall (h : stepCall s w l c = some (w', l'))
    (hn : l'.started = some n) : l.started = some n := by
  cases l with
  | incrementing tries =>
    cases h
    unfold stepIncrementing at hn
    split at hn <;> split at hn <;> cases hn
  | updating tries stored =>
    simp only [stepCall, stepUpdating] at h
    split at h
    · cases h
    split at h
    · cases h
      cases hn
    split at h <;> cases h <;> cases hn
  | deciding next =>
    simp only [stepCall, stepDeciding] at h
    split at h
    · cases h
    split at h <;> cases h
    · split at hn <;> cases hn
    · cases hn
  | decided next =>
    cases h
    unfold stepDecided at hn
    split at hn <;> cases hn
  | stamping after wr =>
    cases h
    simp only [stepStamping] at hn
    split at hn
    · exact hn
    · exact after.started_resume _ hn
  | writing after wr =>
    cases h
    exact after.started_resume _ hn
  | probing started =>
    cases h
    unfold stepProbing at hn
    split at hn
    · split at hn <;> exact hn
    · exact hn
  | comparing started cached readAt =>
    cases h
    unfold stepComparing at hn
    split at hn <;> exact hn
  | measuring started cached readAt =>
    cases h
    unfold stepMeasuring at hn
    split at hn <;> exact hn
  | falling started =>
    cases h
    unfold stepFalling at hn
    split at hn <;> exact hn
  | flooring started user =>
    cases h
    unfold stepFlooring at hn
    split at hn <;> exact hn
  | discarding started =>
    cases h
    exact hn
  | fencing | loading | refreshing =>
    cases h
    split at hn <;> cases hn
  | answered started result => cases h
  | finished => cases h
  | _ =>
    cases h
    cases hn

/-- The snapshot that a write is followed by is as new as the start of its reader. -/
def After.Fresh : After → Prop
  | .finish => True
  | .answer started user => started ≤ user.authVersion

/-- What a reader knows: its start is committed, a stale hash that it has read is barred while the fences last,
and what it returns is as new as its start. -/
def Informed (s : Settings) (w : World) : Phase → Prop
  | .probing started | .discarding started | .falling started => started ≤ w.version
  | .comparing started cached readAt | .measuring started cached readAt =>
    started ≤ w.version ∧ (w.now ≤ readAt + s.margin → cached.authVersion < started →
      w.Barred cached.authVersion (readAt + s.margin))
  | .flooring started user => started ≤ user.authVersion
  | .stamping after _ | .writing after _ => after.Fresh
  | .answered started (.ok user) => started ≤ user.authVersion
  | _ => True

theorem Informed.later (h : Informed s w l) (hw : Later s w w') : Informed s w' l := by
  have hcached : ∀ {started : Int} {cached : UserBase} {readAt : Int},
      (started ≤ w.version ∧ (w.now ≤ readAt + s.margin → cached.authVersion < started →
        w.Barred cached.authVersion (readAt + s.margin))) →
      started ≤ w'.version ∧ (w'.now ≤ readAt + s.margin → cached.authVersion < started →
        w'.Barred cached.authVersion (readAt + s.margin)) := by
    rintro started cached readAt ⟨hle, hb⟩
    refine ⟨hle.trans hw.version, fun hnow hlt => ?_⟩
    exact hw.barred _ _ hnow (hb (hw.now.trans hnow) hlt)
  cases l with
  | probing | discarding | falling => exact le_trans h hw.version
  | comparing | measuring => exact hcached h
  | answered started result => cases result <;> exact h
  | _ => exact h

theorem After.Fresh.resume {after : After} (h : after.Fresh) (e : Option Error) :
    Informed s w (after.resume e) := by
  cases after with
  | finish => exact trivial
  | answer started user =>
    rcases e with _ | _ | _
    · exact h
    · exact trivial
    · exact h

theorem Sound.probed (hw : Sound s w) {started : Int} (h : started ≤ w.version) :
    Informed s w (stepProbing s w c started) := by
  unfold stepProbing
  split
  case h_1 cached _ hlive =>
    split
    · refine ⟨h, fun _ hlt => ?_⟩
      obtain ⟨e, he, -⟩ := hw.hash cached (live_eq_some.mp hlive).1
      have := expires_of_live hlive he
      exact hw.covers hlive he (by omega) (by omega)
    · exact h
  case h_2 => exact h

/-- A call that is no reader needs no knowledge. -/
theorem Informed.of_started (h : l.started = none) : Informed s w l := by
  cases l with
  | stamping after | writing after =>
    cases after with
    | finish => exact trivial
    | answer started user => cases h
  | probing started => cases h
  | comparing started cached readAt => cases h
  | measuring started cached readAt => cases h
  | discarding started => cases h
  | falling started => cases h
  | flooring started user => cases h
  | answered started result => cases h
  | _ => exact trivial

/-- The next phase of a call knows what it needs. -/
theorem Informed.stepCall (hw : Sound s w) (ht : Timely s w l) (hl : Informed s w l)
    (hlater : Later s w w') (h : stepCall s w l c = some (w', l')) : Informed s w' l' := by
  by_cases hreader : l.started = none
  · refine .of_started (eq_none_iff_forall_ne_some.mpr fun n hn => ?_)
    have := started_stepCall h hn
    rw [hreader] at this
    cases this
  cases l with
  | stamping after wr =>
    cases h
    simp only [stepStamping]
    split
    · exact hl
    · exact hl.resume _
  | writing after wr =>
    cases h
    exact hl.resume _
  | probing started =>
    cases h
    exact hw.probed hl
  | comparing started cached readAt =>
    cases h
    unfold stepComparing
    split
    · exact hl
    · exact hl.1
  | measuring started cached readAt =>
    cases h
    unfold stepMeasuring
    split
    case isTrue hfloor =>
      -- a hash that is older than the start of the reader would be barred at this moment
      by_contra hlt
      have hstale : cached.authVersion < started := not_le.mp hlt
      refine not_barred hfloor.2 ?_
      exact (hl.2 ht hstale).imp_right fun ⟨f, hf, hv⟩ => ⟨f, live_earlier ht hf, hv⟩
    case isFalse => exact hl.1
  | falling started =>
    cases h
    unfold stepFalling
    split
    · exact hl
    · exact trivial
  | flooring started user =>
    cases h
    unfold stepFlooring
    split
    · exact trivial
    · exact hl
  | discarding started =>
    cases h
    exact le_trans hl hlater.version
  | answered started result => cases h
  | _ => exact absurd rfl hreader

/-! ### Runs -/

/-- Nothing is cached, no fence is set and no increment is in progress. -/
def World.Cold (w : World) : Prop := w.redis.hash = none ∧ w.redis.fence = none ∧ w.uncommitted = none

instance (w : World) : Decidable w.Cold := inferInstanceAs (Decidable (_ ∧ _ ∧ _))

theorem World.Cold.sound (h : w.Cold) : Sound s w := by
  obtain ⟨hhash, hfence, huncommitted⟩ := h
  refine ⟨?_, ?_, ?_, ?_, ?_⟩
  · intro x hx
    cases hhash.symm.trans hx
  · intro f hf
    cases hfence.symm.trans hf
  · intro x f eh ef hx
    cases hhash.symm.trans hx
  · intro x hx
    cases hhash.symm.trans (live_eq_some.mp hx).1
  · intro n hn
    cases huncommitted.symm.trans hn

/-- The world is sound, and every reader knows what it needs. -/
def Consistent (s : Settings) : Config World Phase → Prop := Machine.Holds (Sound s) (Informed s)

variable {c c' : Config World Phase} {mv : Move Choice Job}

theorem Consistent.steps (hc : Consistent s c) (ht : TimelyMove s c mv) (h : (machine s).step c mv = some c') :
    Consistent s c' := by
  cases Machine.step_steps h with
  | @start job s' l hs =>
    cases hs
    refine hc.start ⟨hc.shared, ?_, fun _ hl => hl⟩
    cases job with
    | read => exact le_rfl
    | _ => exact trivial
  | @act k e s' l l' hk hs =>
    have hl := hc.locals l (mem_of_getElem? hk)
    have htimely : Timely s c.shared l := ht l hk
    have hlater := hc.shared.later (stepCall_changes hc.shared htimely hs)
    refine hc.act k ⟨hlater.sound, ?_, fun _ hx => hx.later hlater⟩
    exact Informed.stepCall hc.shared htimely hl hlater hs

/-- The version `n` is committed, and was so when the calls behind the first `earlier` ones started. -/
structure Since (n : Int) (earlier : Nat) (c : Config World Phase) : Prop where
  version : n ≤ c.shared.version
  started : ∀ k (l : Phase), earlier ≤ k → c.locals[k]? = some l → ∀ m, l.started = some m → n ≤ m

theorem Since.steps {earlier : Nat} (hn : Since n earlier c) (hc : Consistent s c)
    (ht : TimelyMove s c mv) (h : (machine s).step c mv = some c') : Since n earlier c' := by
  cases Machine.step_steps h with
  | @start job s' l hs =>
    cases hs
    refine ⟨hn.version, fun k x hk hx m hm => ?_⟩
    by_cases hlt : k < c.locals.length
    · rw [getElem?_append_left hlt] at hx
      exact hn.started k x hk hx m hm
    · rw [getElem?_append_right (not_lt.mp hlt)] at hx
      obtain rfl := mem_singleton.mp (mem_of_getElem? hx)
      cases job with
      | read =>
        cases hm
        exact hn.version
      | _ => cases hm
  | @act i e s' l l' hi hs =>
    have hlater := hc.shared.later (stepCall_changes hc.shared (ht l hi) hs)
    refine ⟨hn.version.trans hlater.version, fun k x hk hx m hm => ?_⟩
    by_cases hik : i = k
    · subst hik
      obtain rfl : l' = x := by
        have hlen : i < c.locals.length := (List.getElem?_eq_some_iff.mp hi).1
        simpa [hlen] using hx
      exact hn.started i l hk hi m (started_stepCall hs hm)
    · exact hn.started k x hk (by simpa [getElem?_set_ne hik] using hx) m hm

/-- The answers of the readers that started behind the first `earlier` calls are not older than `n`. -/
def AnswersFrom (n : Int) (earlier : Nat) (c : Config World Phase) : Prop :=
  ∀ k started u, earlier ≤ k → c.locals[k]? = some (.answered started (.ok u)) → n ≤ u.authVersion

/-- In every timely run from a cold cache, a reader that starts when a version is committed returns that version
or a later one, or fails. -/
theorem getUserCache_sees_committed (s : Settings) (w : World) (hcold : w.Cold)
    (before behind : List (Move Choice Job)) (c₀ c : Config World Phase)
    (hbefore : run (machine s).step ⟨w, []⟩ before = some c₀) (hbehind : run (machine s).step c₀ behind = some c)
    (hmeets : Meets (machine s).step (TimelyMove s) ⟨w, []⟩ (before ++ behind)) :
    AnswersFrom c₀.shared.version c₀.locals.length c := by
  obtain ⟨hmeets₀, hmeets⟩ := hmeets.split hbefore
  have hstart : Consistent s ⟨w, []⟩ := ⟨hcold.sound, fun l hl => by cases hl⟩
  have hc₀ : Consistent s c₀ :=
    Meets.invariant (Consistent s) (fun _ _ _ hc => hc.steps) before _ _ hstart hmeets₀ hbefore
  have hsince : Since c₀.shared.version c₀.locals.length c₀ := by
    refine ⟨le_rfl, fun k l hk hl => ?_⟩
    rw [getElem?_eq_none hk] at hl
    cases hl
  have hc := Meets.invariant (fun c => Consistent s c ∧ Since c₀.shared.version c₀.locals.length c)
      (fun _ _ _ hc ht h => ⟨hc.1.steps ht h, hc.2.steps hc.1 ht h⟩) behind _ _ ⟨hc₀, hsince⟩ hmeets hbehind
  intro k started u hk hu
  have hfresh : started ≤ u.authVersion := hc.1.locals _ (mem_of_getElem? hu)
  exact (hc.2.started k _ hk hu started rfl).trans hfresh

section Runs

private def minute : Settings := ⟨1, 60⟩

private def cold : World := { version := 1, redis := { owner := some "owner" } }

/-- The owner of the balance fills the cache; then an increment commits, and nothing is published. -/
private def unpublished : List (Move Choice Job) :=
  [.start .surroundings, .start (.fill true "owner"), .act 1 {}, .act 1 {}, .act 1 {},
    .start .increment, .act 2 {}, .act 2 {}, .act 2 {}, .act 2 {}]

private def committed : Config World Phase := (run (machine minute).step ⟨cold, []⟩ unpublished).getD ⟨cold, []⟩

private theorem run_unpublished : run (machine minute).step ⟨cold, []⟩ unpublished = some committed :=
  run_getD (by decide +kernel)

private def reading (k : Nat) (steps : Nat) : List (Move Choice Job) := .start .read :: List.replicate steps (.act k {})

/-- A reader falls back to the database and returns the committed version. -/
theorem getUserCache_sees_committed_fallback :
    ∃ c₀ c, run (machine minute).step ⟨cold, []⟩ unpublished = some c₀ ∧
      run (machine minute).step c₀ (reading 3 7) = some c ∧ c₀.shared.version = 2 ∧
      (∃ u, c.locals[3]? = some (.answered 2 (.ok u))) ∧ AnswersFrom 2 3 c := by
  have hbehind : run (machine minute).step committed (reading 3 7) = some _ := run_getD (by decide +kernel)
  refine ⟨_, _, run_unpublished, hbehind, by decide +kernel, ⟨⟨1, {}, 0, 2, 6, 0, 0⟩, by decide +kernel⟩, ?_⟩
  exact getUserCache_sees_committed minute cold (by decide) unpublished (reading 3 7) _ _ run_unpublished hbehind
    (by decide +kernel)

/-- Two projections keep the old hash alive until the fence has expired; then a reader returns it. -/
private def touched : List (Move Choice Job) :=
  [.act 0 { event := .elapse 50000 }, .start (.hydrate ⟨0, 0, 1⟩), .act 3 {},
    .act 0 { event := .elapse 50000 }, .start (.hydrate ⟨0, 0, 1⟩), .act 4 {},
    .act 0 { event := .elapse 21000 }] ++ reading 5 3

theorem touched_hash_outlives_fence :
    ∃ (s : Settings) (w : World) (before behind : List (Move Choice Job)) (c₀ c : Config World Phase),
      w.Cold ∧ run (machine s).step ⟨w, []⟩ before = some c₀ ∧ run (machine s).step c₀ behind = some c ∧
      ¬ AnswersFrom c₀.shared.version c₀.locals.length c := by
  have hbehind : run (machine minute).step committed touched = some _ := run_getD (by decide +kernel)
  refine ⟨minute, cold, unpublished, touched, _, _, by decide, run_unpublished, hbehind, fun h => ?_⟩
  have hstale := h 5 2 ⟨1, {}, 0, 1, 6, 0, 1⟩ (by decide +kernel) (by decide +kernel)
  revert hstale
  decide +kernel

end Runs

end MyApiSpec.UserCache
