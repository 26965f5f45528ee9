import EntityGen.Value

/-! Equality of values can be decided. -/

namespace EntityGen.Value

mutual

def same : Value → Value → Bool
  | .null, .null => true
  | .bool a, .bool b => a = b
  | .int m, .int n => m = n
  | .double x, .double y => x = y
  | .text s, .text t => s = t
  | .halves cs, .halves ds => cs = ds
  | .list vs, .list ws => sameItems vs ws
  | .map es, .map fs => sameEntries es fs
  | .pair a b, .pair c d => same a c && same b d
  | .set vs, .set ws => sameItems vs ws
  | .date d, .date e => d = e
  | .time l o, .time m p => l = m && o = p
  | .bytes d, .bytes e => d = e
  | .knot m v, .knot n w => m = n && same v w
  | .around m a, .around n b => m = n && a = b
  | _, _ => false

def sameItems : List Value → List Value → Bool
  | [], [] => true
  | v :: vs, w :: ws => same v w && sameItems vs ws
  | _, _ => false

def sameEntries : List (Value × Value) → List (Value × Value) → Bool
  | [], [] => true
  | e :: es, f :: fs => sameEntry e f && sameEntries es fs
  | _, _ => false

def sameEntry : Value × Value → Value × Value → Bool
  | (k, v), (l, w) => same k l && same v w

end

mutual

theorem same_iff : (v w : Value) → (same v w = true ↔ v = w)
  | .null, w => by cases w <;> simp [same]
  | .bool _, w => by cases w <;> simp [same]
  | .int _, w => by cases w <;> simp [same]
  | .double _, w => by cases w <;> simp [same]
  | .text _, w => by cases w <;> simp [same]
  | .halves _, w => by cases w <;> simp [same]
  | .list vs, w => by cases w <;> simp [same, sameItems_iff vs]
  | .map es, w => by cases w <;> simp [same, sameEntries_iff es]
  | .pair a b, w => by cases w <;> simp [same, same_iff a, same_iff b]
  | .set vs, w => by cases w <;> simp [same, sameItems_iff vs]
  | .date _, w => by cases w <;> simp [same]
  | .time _ _, w => by cases w <;> simp [same]
  | .bytes _, w => by cases w <;> simp [same]
  | .knot _ v, w => by cases w <;> simp [same, same_iff v]
  | .around _ _, w => by cases w <;> simp [same]

theorem sameItems_iff : (vs ws : List Value) → (sameItems vs ws = true ↔ vs = ws)
  | [], ws => by cases ws <;> simp [sameItems]
  | v :: vs, ws => by cases ws <;> simp [sameItems, same_iff v, sameItems_iff vs]

theorem sameEntries_iff : (es fs : List (Value × Value)) → (sameEntries es fs = true ↔ es = fs)
  | [], fs => by cases fs <;> simp [sameEntries]
  | e :: es, fs => by cases fs <;> simp [sameEntries, sameEntry_iff e, sameEntries_iff es]

theorem sameEntry_iff : (e f : Value × Value) → (sameEntry e f = true ↔ e = f)
  | (k, v), (l, w) => by simp [sameEntry, same_iff k, same_iff v]

end

instance : DecidableEq Value := fun v w => decidable_of_iff _ (same_iff v w)

end EntityGen.Value
