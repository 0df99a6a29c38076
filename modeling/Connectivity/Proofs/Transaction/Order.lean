import Connectivity.Proofs.Collections
import Connectivity.Transaction

/-!
# The order of execution

Drivers run by ascending priority, and those of one priority in the order in which they were added.
There is only one such order.
-/
namespace Connectivity

variable {ε : Type}

theorem rollbackSequence_perm (order : RollbackOrder) (drivers : List (Instance ε)) :
    (Transaction.rollbackSequence order drivers).Perm drivers := by
  cases order with
  | forward => exact .refl drivers
  | reverse => exact drivers.reverse_perm

namespace Transaction

theorem executionOrder_perm (added : List (Instance ε)) : (executionOrder added).Perm added :=
  List.mergeSort_perm added _

end Transaction

end Connectivity
