import Tollgate.Fault

namespace Tollgate

inductive BillingCall where
  | syncSubscription (customer subscription : Option Text)
  | handleDelinquentCustomer (subscription : Members)
deriving DecidableEq

abbrev Billing := BillingCall → Except Fault Unit

end Tollgate
