import SdarRuntime.Library.Histories
import SdarRuntime.Library.OrderedMap

/-!
The limiter that counts the requests of each source address in a window of time, in a table of
bounded size.
-/

namespace SdarRuntime
namespace RateLimiter

open OrderedMap

structure RateLimitDecision where
  allowed : Bool
  remaining : Nat
  deriving DecidableEq, Repr

structure RateWindow where
  startedAt : Int
  count : Nat
  deriving DecidableEq, Repr

structure BoundedRateLimiter where
  limit : Nat
  windowMs : Int
  maxKeys : Nat

abbrev Windows := OrderedMap String RateWindow

def prune (limiter : BoundedRateLimiter) (windows : Windows) (now : Int) : Windows :=
  windows.filterMap fun window =>
    if now - window.startedAt ≥ limiter.windowMs then none else some window

/-- The oldest window so far; of two that started together the earlier one is kept. -/
def older (oldest : Option (String × Int)) (entry : String × RateWindow) :
    Option (String × Int) :=
  match oldest with
  | none => some (entry.1, entry.2.startedAt)
  | some (oldestKey, oldestStartedAt) =>
    if entry.2.startedAt < oldestStartedAt then some (entry.1, entry.2.startedAt)
    else some (oldestKey, oldestStartedAt)

def oldestKey (windows : Windows) : Option String :=
  (windows.entries.foldl older none).map Prod.fst

def evictOldest (windows : Windows) : Windows :=
  match oldestKey windows with
  | some key => windows.erase key
  | none => windows

def makeRoom (limiter : BoundedRateLimiter) (windows : Windows) : Windows :=
  if windows.size ≥ limiter.maxKeys then evictOldest windows else windows

def decision (limiter : BoundedRateLimiter) (window : RateWindow) : RateLimitDecision :=
  { allowed := window.count ≤ limiter.limit
    remaining := limiter.limit - window.count }

def consume (limiter : BoundedRateLimiter) (windows : Windows) (key : String) (now : Int) :
    Windows × RateLimitDecision :=
  let pruned := prune limiter windows now
  match pruned.get? key with
  | some window =>
    let counted := { window with count := window.count + 1 }
    (pruned.set key counted, decision limiter counted)
  | none =>
    let counted := { startedAt := now, count := 1 }
    ((makeRoom limiter pruned).set key counted, decision limiter counted)

structure Call where
  key : String
  now : Int
  deriving DecidableEq, Repr

def next (limiter : BoundedRateLimiter) (windows : Windows) (call : Call) : Windows :=
  (consume limiter windows call.key call.now).1

def after (limiter : BoundedRateLimiter) (calls : List Call) : Windows :=
  Histories.after (next limiter) empty calls

def InOrder (calls : List Call) : Prop :=
  calls.Pairwise fun earlier later => earlier.now ≤ later.now

def UsedUp (limiter : BoundedRateLimiter) (windows : Windows) (key : String) (startedAt : Int) :
    Prop :=
  ∃ window, windows.get? key = some window ∧ window.startedAt = startedAt ∧
    limiter.limit ≤ window.count

/-- A call takes a key's window away: the call's key has no window, the table is full of windows
that still run, and the key's is the oldest of them. -/
def Evicts (limiter : BoundedRateLimiter) (key : String) (windows : Windows) (call : Call) :
    Prop :=
  let pruned := prune limiter windows call.now
  pruned.get? call.key = none ∧ limiter.maxKeys ≤ pruned.size ∧ oldestKey pruned = some key

instance (limiter : BoundedRateLimiter) (key : String) (windows : Windows) (call : Call) :
    Decidable (Evicts limiter key windows call) :=
  inferInstanceAs (Decidable (_ ∧ _))

variable {limiter : BoundedRateLimiter} {windows : Windows}

private theorem foldl_older_mem (entries : List (String × RateWindow))
    (oldest : Option (String × Int)) {key : String} {startedAt : Int}
    (isOldest : entries.foldl older oldest = some (key, startedAt)) :
    oldest = some (key, startedAt) ∨ key ∈ entries.map Prod.fst := by
  induction entries generalizing oldest with
  | nil => exact Or.inl isOldest
  | cons entry rest ih =>
    rcases ih (older oldest entry) isOldest with here | later
    · cases oldest with
      | none =>
        cases here
        exact Or.inr List.mem_cons_self
      | some known =>
        by_cases earlier : entry.2.startedAt < known.2
        · simp only [older, if_pos earlier, Option.some.injEq, Prod.mk.injEq] at here
          rw [← here.1]
          exact Or.inr List.mem_cons_self
        · simp only [older, if_neg earlier] at here
          exact Or.inl here
    · exact Or.inr (List.mem_cons_of_mem entry.1 later)

theorem mem_keys_of_oldestKey {key : String} (isOldest : oldestKey windows = some key) :
    key ∈ windows.keys := by
  obtain ⟨⟨found, startedAt⟩, isFound, rfl⟩ := Option.map_eq_some_iff.mp isOldest
  rcases foldl_older_mem windows.entries none isFound with impossible | present
  · cases impossible
  · exact present

private theorem foldl_older_isSome (entries : List (String × RateWindow)) (known : String × Int) :
    (entries.foldl older (some known)).isSome := by
  induction entries generalizing known with
  | nil => rfl
  | cons entry rest ih =>
    by_cases earlier : entry.2.startedAt < known.2
    · simpa only [List.foldl_cons, older, if_pos earlier] using ih _
    · simpa only [List.foldl_cons, older, if_neg earlier] using ih _

theorem oldestKey_of_size_pos (present : 0 < windows.size) :
    ∃ key, oldestKey windows = some key := by
  unfold oldestKey
  cases shape : windows.entries with
  | nil =>
    have empty : windows.size = 0 := congrArg List.length shape
    omega
  | cons entry rest =>
    have found := foldl_older_isSome rest (entry.1, entry.2.startedAt)
    obtain ⟨oldest, isOldest⟩ := Option.isSome_iff_exists.mp found
    exact ⟨oldest.1, congrArg (Option.map Prod.fst) isOldest⟩

theorem size_prune_le (now : Int) : (prune limiter windows now).size ≤ windows.size :=
  size_filterMap_le windows _

theorem size_makeRoom_lt (positive : 1 ≤ limiter.maxKeys)
    (within : windows.size ≤ limiter.maxKeys) :
    (makeRoom limiter windows).size < limiter.maxKeys := by
  unfold makeRoom
  by_cases full : windows.size ≥ limiter.maxKeys
  · have present : 0 < windows.size := by omega
    obtain ⟨key, isOldest⟩ := oldestKey_of_size_pos present
    have smaller := size_erase_lt (mem_keys_of_oldestKey isOldest)
    rw [if_pos full]
    simp only [evictOldest, isOldest]
    omega
  · rw [if_neg full]
    omega

theorem size_next_le (positive : 1 ≤ limiter.maxKeys) (call : Call)
    (within : windows.size ≤ limiter.maxKeys) :
    (next limiter windows call).size ≤ limiter.maxKeys := by
  have pruned : (prune limiter windows call.now).size ≤ windows.size := size_prune_le call.now
  simp only [next, consume]
  cases known : (prune limiter windows call.now).get? call.key with
  | some window =>
    have isKey : call.key ∈ (prune limiter windows call.now).keys := by
      rw [mem_keys, known]
      rfl
    have same := size_set_known { window with count := window.count + 1 } isKey
    dsimp only
    omega
  | none =>
    have room := size_makeRoom_lt positive (Nat.le_trans pruned within)
    have more := size_set_le (makeRoom limiter (prune limiter windows call.now))
      call.key { startedAt := call.now, count := 1 }
    dsimp only
    omega

variable {window : RateWindow}

theorem get?_prune_of_running {key : String} {now : Int} (found : windows.get? key = some window)
    (running : now < window.startedAt + limiter.windowMs) :
    (prune limiter windows now).get? key = some window := by
  have isRunning : ¬ now - window.startedAt ≥ limiter.windowMs := by omega
  rw [prune, get?_filterMap, found]
  exact if_neg isRunning

theorem get?_makeRoom {key : String} (found : windows.get? key = some window)
    (spared : limiter.maxKeys ≤ windows.size → oldestKey windows ≠ some key) :
    (makeRoom limiter windows).get? key = some window := by
  unfold makeRoom
  by_cases full : windows.size ≥ limiter.maxKeys
  · rw [if_pos full]
    unfold evictOldest
    cases isOldest : oldestKey windows with
    | none => exact found
    | some oldest =>
      have different : key ≠ oldest := by
        intro same
        apply spared full
        rw [isOldest, same]
      dsimp only
      rw [get?_erase, if_neg different]
      exact found
  · rw [if_neg full]
    exact found

theorem usedUp_next {key : String} {startedAt : Int} {call : Call}
    (usedUp : UsedUp limiter windows key startedAt)
    (spared : ¬ Evicts limiter key windows call)
    (running : call.now < startedAt + limiter.windowMs) :
    UsedUp limiter (next limiter windows call) key startedAt := by
  obtain ⟨window, found, rfl, spent⟩ := usedUp
  have kept := get?_prune_of_running found running
  simp only [next, consume]
  cases known : (prune limiter windows call.now).get? call.key with
  | some current =>
    dsimp only
    by_cases same : key = call.key
    · subst key
      rw [known] at kept
      cases kept
      exact ⟨_, get?_set_self _ _ _, rfl, Nat.le_succ_of_le spent⟩
    · exact ⟨window, (get?_set_ne _ _ same).trans kept, rfl, spent⟩
  | none =>
    have different : key ≠ call.key := by
      intro same
      rw [same, known] at kept
      cases kept
    have stays : (makeRoom limiter (prune limiter windows call.now)).get? key = some window :=
      get?_makeRoom kept (fun full isOldest => spared ⟨known, full, isOldest⟩)
    exact ⟨window, (get?_set_ne _ _ different).trans stays, rfl, spent⟩

variable {startedAt now : Int}

theorem denied_of_usedUp {key : String} (usedUp : UsedUp limiter windows key startedAt)
    (running : now < startedAt + limiter.windowMs) :
    (consume limiter windows key now).2.allowed = false := by
  obtain ⟨window, found, rfl, spent⟩ := usedUp
  have kept := get?_prune_of_running found running
  have above : ¬ window.count + 1 ≤ limiter.limit := by omega
  simp only [consume, kept, decision]
  exact decide_eq_false above

theorem usedUp_after {key : String} {between : List Call}
    (usedUp : UsedUp limiter windows key startedAt) (spared : Histories.EveryStep (next limiter)
      (fun windows call => ¬ Evicts limiter key windows call) windows between)
    (before : ∀ call ∈ between, call.now ≤ now) (running : now < startedAt + limiter.windowMs) :
    UsedUp limiter (Histories.after (next limiter) windows between) key startedAt := by
  induction between generalizing windows with
  | nil => exact usedUp
  | cons call later ih =>
    have early : call.now ≤ now := before call List.mem_cons_self
    apply ih _ spared.2
    · intro other member
      exact before other (List.mem_cons_of_mem call member)
    · exact usedUp_next usedUp spared.1 (by omega)

def KeysAmong (keys : List String) (windows : Windows) : Prop :=
  ∀ key, key ∈ windows.keys → key ∈ keys

theorem mem_keys_of_prune {now : Int} {key : String}
    (present : key ∈ (prune limiter windows now).keys) : key ∈ windows.keys := by
  rw [mem_keys, prune, get?_filterMap, Option.isSome_iff_exists] at present
  obtain ⟨window, isWindow⟩ := present
  obtain ⟨old, found, _⟩ := Option.bind_eq_some_iff.mp isWindow
  rw [mem_keys, found]
  rfl

theorem mem_keys_of_makeRoom {key : String} (present : key ∈ (makeRoom limiter windows).keys) :
    key ∈ windows.keys := by
  unfold makeRoom at present
  by_cases full : windows.size ≥ limiter.maxKeys
  · rw [if_pos full] at present
    unfold evictOldest at present
    cases isOldest : oldestKey windows with
    | none =>
      rw [isOldest] at present
      exact present
    | some oldest =>
      rw [isOldest] at present
      exact (mem_keys_erase.mp present).2
  · rw [if_neg full] at present
    exact present

variable {keys : List String}

theorem keysAmong_next (among : KeysAmong keys windows) {call : Call} (known : call.key ∈ keys) :
    KeysAmong keys (next limiter windows call) := by
  intro key present
  simp only [next, consume] at present
  cases found : (prune limiter windows call.now).get? call.key with
  | some window =>
    rw [found] at present
    rcases mem_keys_set.mp present with isKey | old
    · rw [isKey]
      exact known
    · exact among key (mem_keys_of_prune old)
  | none =>
    rw [found] at present
    rcases mem_keys_set.mp present with isKey | old
    · rw [isKey]
      exact known
    · exact among key (mem_keys_of_prune (mem_keys_of_makeRoom old))

theorem not_evicts_of_fewKeys (among : KeysAmong keys windows) {call : Call}
    (known : call.key ∈ keys) (few : keys.length ≤ limiter.maxKeys) (key : String) :
    ¬ Evicts limiter key windows call := by
  rintro ⟨absent, full, _⟩
  have bound : (prune limiter windows call.now).size ≤ (keys.erase call.key).length := by
    apply size_le_of_keys
    intro other present
    have different : other ≠ call.key := by
      intro same
      rw [same, mem_keys, absent] at present
      cases present
    exact (List.mem_erase_of_ne different).mpr (among other (mem_keys_of_prune present))
  have positive := List.length_pos_of_mem known
  rw [List.length_erase_of_mem known] at bound
  omega

theorem spared_of_fewKeys (few : keys.length ≤ limiter.maxKeys) (key : String) (calls : List Call)
    (among : KeysAmong keys windows) (known : ∀ call ∈ calls, call.key ∈ keys) :
    KeysAmong keys (Histories.after (next limiter) windows calls) ∧
      Histories.EveryStep (next limiter) (fun windows call => ¬ Evicts limiter key windows call)
        windows calls := by
  induction calls generalizing windows with
  | nil => exact ⟨among, trivial⟩
  | cons call later ih =>
    have isKnown := known call List.mem_cons_self
    have stillAmong : KeysAmong keys (next limiter windows call) := keysAmong_next among isKnown
    have rest := ih stillAmong
      (fun other member => known other (List.mem_cons_of_mem call member))
    exact ⟨rest.1, not_evicts_of_fewKeys among isKnown few key, rest.2⟩

def Bounded (limiter : BoundedRateLimiter) : Prop :=
  ∀ calls, InOrder calls → (after limiter calls).size ≤ limiter.maxKeys

/-- In every run whose calls meet a condition, a key that has used up its window is denied until
the window's end. -/
def DeniesWhile (limiter : BoundedRateLimiter)
    (Condition : String → List Call → List Call → Prop) : Prop :=
  ∀ earlier between key startedAt now,
    InOrder (earlier ++ between ++ [{ key := key, now := now }]) →
    UsedUp limiter (after limiter earlier) key startedAt →
    Condition key earlier between →
    now < startedAt + limiter.windowMs →
    (consume limiter (after limiter (earlier ++ between)) key now).2.allowed = false

def Spares (limiter : BoundedRateLimiter) (key : String) (earlier between : List Call) : Prop :=
  Histories.EveryStep (next limiter) (fun windows call => ¬ Evicts limiter key windows call)
    (after limiter earlier) between

def FewKeys (limiter : BoundedRateLimiter) (earlier between : List Call) : Prop :=
  ∃ keys : List String, keys.length ≤ limiter.maxKeys ∧
    ∀ call ∈ earlier ++ between, call.key ∈ keys

theorem bounded_of_positive (positive : 1 ≤ limiter.maxKeys) : Bounded limiter := by
  intro calls _
  have step : ∀ (windows : Windows) call, windows.size ≤ limiter.maxKeys →
      (next limiter windows call).size ≤ limiter.maxKeys :=
    fun _ call within => size_next_le positive call within
  exact Histories.always step (Nat.zero_le _) calls

theorem deniesWhile_spares : DeniesWhile limiter (Spares limiter) := by
  intro earlier between key startedAt now ordered usedUp spared running
  have early : ∀ call ∈ between, call.now ≤ now := by
    intro call member
    have apart := (List.pairwise_append.mp ordered).2.2
    exact apart call (List.mem_append_right earlier member) _ List.mem_cons_self
  unfold after
  rw [Histories.after_append]
  exact denied_of_usedUp (usedUp_after usedUp spared early running) running

theorem spares_of_fewKeys {earlier between : List Call} (few : FewKeys limiter earlier between)
    (key : String) : Spares limiter key earlier between := by
  obtain ⟨keys, within, known⟩ := few
  have none : KeysAmong keys (empty : Windows) := by
    intro other present
    cases present
  have start := spared_of_fewKeys within key earlier none
    (fun call member => known call (List.mem_append_left between member))
  exact (spared_of_fewKeys within key between start.1
    (fun call member => known call (List.mem_append_right earlier member))).2

/-- The table never outgrows its bound, and a key that has used up its window is denied until the
window ends, unless a call for a new key finds the table full of running windows of which the
key's is the oldest; runs with no more keys than the table holds never come to that. -/
theorem bounded_limiter_laws (positive : 1 ≤ limiter.maxKeys) :
    Bounded limiter ∧
      DeniesWhile limiter (Spares limiter) ∧
      DeniesWhile limiter (fun _ earlier between => FewKeys limiter earlier between) := by
  constructor
  · exact bounded_of_positive positive
  · constructor
    · exact deniesWhile_spares
    · intro earlier between key startedAt now ordered usedUp few running
      exact deniesWhile_spares earlier between key startedAt now ordered usedUp
        (spares_of_fewKeys few key) running

def smallestLimiter : BoundedRateLimiter :=
  { limit := 1
    windowMs := 1000
    maxKeys := 16 }

theorem bounded_limiter_laws_smallest :
    Bounded smallestLimiter ∧
      (consume smallestLimiter
        (after smallestLimiter [{ key := "a", now := 0 }, { key := "b", now := 5 }])
        "a" 999).2.allowed = false := by
  have positive : 1 ≤ smallestLimiter.maxKeys := by decide
  have laws := bounded_limiter_laws positive
  constructor
  · exact laws.1
  · apply laws.2.1 [{ key := "a", now := 0 }] [{ key := "b", now := 5 }] "a" 0 999
    · unfold InOrder
      decide
    · exact ⟨{ startedAt := 0, count := 1 }, by decide +kernel, rfl, by decide⟩
    · exact ⟨by decide +kernel, trivial⟩
    · decide

def otherAddresses : List Call :=
  ["b", "c", "d", "e", "f", "g", "h", "i", "j", "k", "l", "m", "n", "o", "p", "q"].map
    fun key => { key := key, now := 1 }

/-- Sixteen other addresses give an exhausted address a fresh window before its own has ended. -/
theorem others_reset_window :
    ¬ ∀ limiter : BoundedRateLimiter, 1 ≤ limiter.maxKeys →
        Bounded limiter ∧ DeniesWhile limiter (fun _ _ _ => True) := by
  intro promised
  have denies := (promised smallestLimiter (by decide)).2
  have denied := denies [{ key := "a", now := 0 }] otherAddresses "a" 0 2
    (by unfold InOrder otherAddresses; decide +kernel)
    ⟨{ startedAt := 0, count := 1 }, by decide +kernel, rfl, by decide⟩ trivial (by decide)
  have allowed : (consume smallestLimiter
      (after smallestLimiter ([{ key := "a", now := 0 }] ++ otherAddresses)) "a" 2).2.allowed =
        true := by decide +kernel
  rw [allowed] at denied
  cases denied

end RateLimiter
end SdarRuntime
