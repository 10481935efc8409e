import BaobabErp.OrderToCash.GovernedExecution
import BaobabErp.FinanceBaselines.NativeReadiness
import BaobabErp.Inbox.LeaseFence
import BaobabErp.OrderToCash.SingleOrder
import BaobabErp.OrderToCash.TenantIsolation
import BaobabErp.Provisioning.CanonicalState
import BaobabErp.Provisioning.ApprovedPlan
import BaobabErp.Provisioning.IdempotentAcceptance
import BaobabErp.Provisioning.InstallationsApart
import BaobabErp.NativeFinance.GovernedClass
import BaobabErp.NativeFinance.Documents
import BaobabErp.NativeFinance.FixedClass
import BaobabErp.NativeFinance.CostFences
import BaobabErp.NativeFinance.NativeRecord
import BaobabErp.NativeFinance.Resolver
import BaobabErp.NativeFinance.HeaderClass
import BaobabErp.Inbox.Contention
import BaobabErp.OrderToCash.AnnouncedOrder
import BaobabErp.Scoping.Script
import BaobabErp.Integration.EgressGuard
import BaobabErp.Integration.ExecutorWrites
import BaobabErp.OrderToCash.RepeatedCreate
import BaobabErp.OrderToCash.IrreversiblePosting
import BaobabErp.FinanceBaselines.Backdating
import BaobabErp.Integration.Filter
import BaobabErp.Integration.ListRequest
import BaobabErp.Integration.SignedDelivery
import BaobabErp.Inventory.Revision
import BaobabErp.Provisioning.SourceVersions
import BaobabErp.Outbox.Sequential
import BaobabErp.Outbox.Overlap
import BaobabErp.Integration.Endings
import BaobabErp.Provisioning.PassPhases
import BaobabErp.Concurrency.Raising
import BaobabErp.Provisioning.EngineTrouble
import BaobabErp.Provisioning.StepRefusals
import BaobabErp.Provisioning.Unfinished
import BaobabErp.Inbox.Receipt
import BaobabErp.OrderToCash.OrderAmounts
import BaobabErp.Integration.MinimalJson
import BaobabErp.Provisioning.Fingerprint
import BaobabErp.NativeFinance.Authority
import BaobabErp.NativeFinance.PlacementRuns
import BaobabErp.Customers.SinglePartner
import BaobabErp.Provisioning.Lasting
import BaobabErp.OrderToCash.OrderHistory
