import LiveLint.Fault
import LiveLint.Json.Printer
import LiveLint.Log
import LiveLint.Moment
import LiveLint.Total

/-!
# The notice cache

Notices in the order in which they were stored, at most one for each file and identity, and
together no larger than a cap. What is stored last stays longest: when the cap is exceeded the
oldest notices go first.
-/

namespace LiveLint

/-!
## Notices

A notice records that a pattern was shown to the user, or dismissed by the user, in some file. As
long as it counts, the pattern is not shown again: a dismissal counts for ever, a showing until it
expires.
-/

/-- A record that a pattern was shown or dismissed. -/
structure Notice (τ : Type) where
  file : String
  identity : String
  createdAt : τ
  /-- The first moment at which a showing no longer counts. -/
  expiresAt : τ
  dismissed : Bool := false
  shown : Bool := false
  /-- Kind of the pattern, for information only. -/
  kind : String := ""
  deriving Repr

namespace Notice

/-- What a notice is stored under: its file and the identity of its pattern. -/
abbrev Key := String × String

variable {τ : Type}

def key (n : Notice τ) : Key := (n.file, n.identity)

def markShown (n : Notice τ) : Notice τ := { n with shown := true }

def markDismissed (n : Notice τ) : Notice τ := { n with dismissed := true }

variable [Moment τ]

/-- A notice made at a moment that counts for some time. -/
def create (key : Key) (kind : String) (now ttl : τ) : Notice τ where
  file := key.1
  identity := key.2
  createdAt := now
  expiresAt := now + ttl
  kind := kind

def isExpired (n : Notice τ) (now : τ) : Bool := Moment.le n.expiresAt now

/-- Whether the notice keeps its pattern from being shown. -/
def suppresses (n : Notice τ) (now : τ) : Bool := n.dismissed || !n.isExpired now

def fields (n : Notice τ) : Fields :=
  [("file", .text n.file), ("identity", .text n.identity), ("created_at", Moment.value n.createdAt),
    ("expires_at", Moment.value n.expiresAt), ("dismissed", .bool n.dismissed),
    ("shown", .bool n.shown), ("kind", .text n.kind)]

/-- Number of bytes of the notice in compact form. -/
def size (n : Notice τ) : Nat := (Json.print (.table n.fields)).utf8ByteSize

end Notice

/-! ## Stored notices -/

/-- The total size that is allowed. -/
structure SizeCap where
  /-- The most bytes there may be. -/
  bytes : Int
  /-- The cap as it was set. -/
  given : Number := .int bytes
  deriving Repr

def SizeCap.ofNumber (x : Number) : SizeCap := ⟨x.floor, x⟩

/-- Stored notices, oldest first, with their total size. -/
structure NoticeCache (τ : Type) where
  entries : List (Notice τ) := []
  size : Nat := 0
  /-- The total size that is allowed. -/
  cap : SizeCap
  /-- How long a showing counts. -/
  ttl : τ
  deriving Repr

inductive NoticeAction where
  | shown | dismissed
  deriving DecidableEq, Repr

def NoticeAction.label : NoticeAction → String
  | .shown => "shown"
  | .dismissed => "dismissed"

def NoticeAction.ofLabel? : String → Option NoticeAction
  | "shown" => some .shown
  | "dismissed" => some .dismissed
  | _ => none

def NoticeAction.ofValue (v : Value) : Except Fault NoticeAction :=
  match v with
  | .text name =>
    match NoticeAction.ofLabel? name with
    | some action => .ok action
    | none => .error (.unacceptable (.action v))
  | v => .error (.unacceptable (.action v))

/-- What an operation does to a cache: the new cache, whether anything was stored or removed, and
what is logged. -/
structure NoticeCache.Change (τ : Type) where
  cache : NoticeCache τ
  mutated : Bool
  logs : List Log.Record := []

namespace NoticeCache

variable {τ : Type}

def get? (c : NoticeCache τ) (key : Notice.Key) : Option (Notice τ) :=
  c.entries.find? (·.key == key)

def emptied (c : NoticeCache τ) : NoticeCache τ := { c with entries := [], size := 0 }

variable [Moment τ]

/-- Whether a pattern was shown or dismissed and that still counts. -/
def suppresses (c : NoticeCache τ) (key : Notice.Key) (now : τ) : Bool :=
  (c.get? key).any (·.suppresses now)

/-- The cache without the notices that have a property. -/
def removeAll (c : NoticeCache τ) (p : Notice τ → Bool) : NoticeCache τ :=
  { c with
    entries := c.entries.filter (!p ·)
    size := c.size - total (·.size) (c.entries.filter p) }

/-- Drops the oldest notices until the size of the rest is within the cap. -/
def fit (cap : SizeCap) : List (Notice τ) → Nat → List (Notice τ) × Nat
  | [], size => ([], size)
  | n :: rest, size => if cap.bytes < size then fit cap rest (size - n.size) else (n :: rest, size)

/-- The cache with its oldest notices dropped until it is within its cap. -/
def fitted (c : NoticeCache τ) : NoticeCache τ :=
  let (entries, size) := fit c.cap c.entries c.size
  { c with entries, size }

def logged (message : String) : Log.Record := .ofLogger .warning "notifications.cache" message

/-- The cache with a notice as the latest one, in place of an older one under its key, and what is
logged if it is too large to be kept. -/
def insert (c : NoticeCache τ) (n : Notice τ) : NoticeCache τ × List Log.Record :=
  let rest := c.removeAll (·.key == n.key)
  let kept :=
    fitted { rest with entries := rest.entries ++ [n], size := rest.size + n.size }
  (kept,
    if kept.entries.isEmpty then
      [logged ("Cache entry of " ++ toString n.size ++ " bytes exceeds the " ++ c.cap.given.text ++
        "-byte cap; not kept")]
    else [])

/-- The cache with a notice in the place of the one under its key. -/
def replace (c : NoticeCache τ) (old new : Notice τ) : NoticeCache τ :=
  { c with
    entries := c.entries.map fun n => if n.key == new.key then new else n
    size := c.size + new.size - old.size }

/-- Marks the notice under the key of `n` if it still counts, otherwise stores `n` marked. Returns
what is stored under the key, or would be if it were not too large. -/
def record (c : NoticeCache τ) (mark : Notice τ → Notice τ) (n : Notice τ) (now : τ) :
    Change τ × Notice τ :=
  match (c.get? n.key).filter (·.suppresses now) with
  | some old => ({ cache := c.replace old (mark old), mutated := true }, mark old)
  | none =>
    let (cache, logs) := c.insert (mark n)
    ({ cache, mutated := true, logs }, mark n)

def recordShown (c : NoticeCache τ) (n : Notice τ) (now : τ) : Change τ × Notice τ :=
  c.record Notice.markShown n now

def recordDismissed (c : NoticeCache τ) (n : Notice τ) (now : τ) : Change τ × Notice τ :=
  c.record Notice.markDismissed n now

/-- Answers whether a pattern is suppressed and records an action. Showing a suppressed pattern
records nothing. -/
def checkAndRecord (c : NoticeCache τ) (key : Notice.Key) (action : NoticeAction) (kind : String)
    (now : τ) : Change τ × Bool :=
  let suppressed := c.suppresses key now
  let n := Notice.create key kind now c.ttl
  match action with
  | .dismissed => ((c.recordDismissed n now).1, suppressed)
  | .shown =>
    if suppressed then ({ cache := c, mutated := false }, suppressed)
    else ((c.recordShown n now).1, suppressed)

/-- Removes the notices that have a property and counts them. -/
def drop (c : NoticeCache τ) (p : Notice τ → Bool) : Change τ × Nat :=
  let count := c.entries.countP p
  ({ cache := c.removeAll p, mutated := count != 0 }, count)

def sweep (c : NoticeCache τ) (now : τ) : Change τ × Nat :=
  c.drop fun n => !n.dismissed && n.isExpired now

def forget (c : NoticeCache τ) (file : String) : Change τ × Nat := c.drop (·.file == file)

/-- Drops the oldest notices until the cache is within its cap, and counts them. -/
def shrink (c : NoticeCache τ) : Change τ × Nat :=
  let cache := c.fitted
  let count := c.entries.length - cache.entries.length
  ({ cache, mutated := count != 0 }, count)

/-- Changes the cap and drops what no longer fits. -/
def resize (c : NoticeCache τ) (cap : SizeCap) : Change τ × Nat := shrink { c with cap }

def dismissedCount (c : NoticeCache τ) : Nat := c.entries.countP (·.dismissed)

/-- Number of showings that no longer count. -/
def expiredCount (c : NoticeCache τ) (now : τ) : Nat :=
  c.entries.countP fun n => !n.dismissed && n.isExpired now

end NoticeCache

end LiveLint
