import OverlayFabric.Store.Error

/-!
Whether another process holds the write lock of the database. Reading needs no lock; the first
statement of an operation that writes is refused while the lock is held.
-/

namespace OverlayFabric

inductive Lock where
  | free
  | held
  deriving DecidableEq, Repr

def Lock.claim (lock : Lock) (operation : String) : Except StoreError Unit :=
  match lock with
  | .free => .ok ()
  | .held => .error (.database operation true)

@[simp] theorem Lock.claim_free (operation : String) : Lock.free.claim operation = .ok () := rfl

end OverlayFabric
