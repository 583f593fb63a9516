import Sumurai.Foundations.Runs
import Sumurai.Foundations.AssocMap
import Sumurai.Models.Rows
import Sumurai.Foundations.OrderBy
import Sumurai.Models.Schema
import Sumurai.Repository.Accounts
import Sumurai.Repository.Transactions
import Sumurai.Repository.Corrections
import Sumurai.Analytics.BalanceCategory
import Sumurai.Analytics.BalancesOverview
import Sumurai.Analytics.NetWorth
import Sumurai.Analytics.NetWorthPasses
import Sumurai.Analytics.NetWorthLedger
import Sumurai.Analytics.NetWorthLaws
import Sumurai.Foundations.Groups
import Sumurai.Foundations.LinkGraph
import Sumurai.Repository.Duplicates
import Sumurai.Duplicates.Merge
import Sumurai.Duplicates.Links
import Sumurai.Duplicates.Forest
import Sumurai.Duplicates.MarkRace
import Sumurai.Duplicates.PendingMatch
import Sumurai.Duplicates.PendingMerchants
import Sumurai.Foundations.Programs
import Sumurai.Repository.Connections
import Sumurai.Connection.Calls
import Sumurai.Connection.SyncWindow
import Sumurai.Connection.Sync
import Sumurai.Connection.Records
import Sumurai.Connection.Disconnect
import Sumurai.Connection.Retry
import Sumurai.Connection.LastSync
import Sumurai.Foundations.Windows
import Sumurai.Connection.Coverage
import Sumurai.Connection.SyncedRows
import Sumurai.Connection.Completeness
import Sumurai.Foundations.Calendar
import Sumurai.Models.Dates
import Sumurai.Analytics.SpendingCategory
import Sumurai.Analytics.Spending
import Sumurai.Analytics.SpendingTotals
import Sumurai.Budgets.Calls
import Sumurai.Budgets.Handlers
import Sumurai.Budgets.Uniqueness
import Sumurai.Budgets.Coherence
import Sumurai.Auth.Calls
import Sumurai.Auth.Handlers
import Sumurai.Auth.EndedSessions
import Sumurai.Auth.Revocation
import Sumurai.Auth.Logout
import Sumurai.Foundations.Matchings
import Sumurai.Amazon.Receipts
import Sumurai.Amazon.Syncer
import Sumurai.Amazon.OneToOne
import Sumurai.Amazon.Tenancy
import Sumurai.Connection.Connect
import Sumurai.Connection.Identity
import Sumurai.Foundations.HiddenRows
import Sumurai.Connection.Tenants
import Sumurai.Connection.Isolation
import Sumurai.Foundations.Globs
import Sumurai.Overview.CacheKeys
import Sumurai.Overview.ManualAccounts
import Sumurai.Overview.ManualHistory
import Sumurai.Overview.Session
import Sumurai.Overview.Dependencies
import Sumurai.Overview.Coherence
import Sumurai.Analytics.QueryLimits
import Sumurai.Analytics.NetWorthPanics
import Sumurai.Analytics.NetWorthDays
import Sumurai.Frontend.ApiClient
import Sumurai.Frontend.RequestBounds
import Sumurai.Frontend.Types
import Sumurai.Frontend.BudgetEdits
import Sumurai.Frontend.Selections
import Sumurai.Foundations.CaseMapping
import Sumurai.Frontend.Categories
import Sumurai.Frontend.CategoryTables
import Sumurai.Frontend.CategoryAgreement
import Sumurai.Foundations.DecimalText
import Sumurai.Frontend.Dates
import Sumurai.Frontend.Transactions
import Sumurai.Frontend.SpendingAgreement
import Sumurai.Frontend.BudgetCalculator
import Sumurai.Frontend.RolloverWindows
import Sumurai.Frontend.FullYearBudgets
import Sumurai.Frontend.LocalDates
import Sumurai.Frontend.MonthRanges
import Sumurai.Frontend.AccountSelection
import Sumurai.Frontend.CurrencyRates
import Sumurai.Frontend.DashboardLoads
import Sumurai.Frontend.BudgetAgreement
import Sumurai.Frontend.CategoryMembership
import Sumurai.Frontend.SubcategoryBudgets
import Sumurai.Frontend.Sankey
import Sumurai.Foundations.Flows
import Sumurai.Frontend.SankeyFlows
import Sumurai.Frontend.SankeyChart
import Sumurai.Frontend.SankeyBalance
import Sumurai.Duplicates.MergeOverrides
import Sumurai.Connection.Truthful
import Sumurai.Foundations.Json
import Sumurai.Providers.PlaidPages
import Sumurai.Providers.TellerBalances
import Sumurai.Foundations.UniqueUpdates
import Sumurai.Foundations.Unwinding
import Sumurai.Budgets.Migrations
import Sumurai.Foundations.Embeddings
import Sumurai.Foundations.KeyedLists
import Sumurai.Connection.AccountCache
import Sumurai.Connection.CountedAccounts
import Sumurai.Connection.ConnectedAccounts
import Sumurai.Analytics.Recategorization
import Sumurai.Analytics.AccountClasses
import Sumurai.Analytics.OverviewTotals
import Sumurai.Analytics.DateBounds
import Sumurai.Foundations.Cuts
import Sumurai.Analytics.MonthlyTotals
import Sumurai.Analytics.DailySpending
import Sumurai.Analytics.TopMerchants
import Sumurai.Categories.UserCategories
import Sumurai.Categories.CleanUp
import Sumurai.Categories.StoredOverrides
import Sumurai.Frontend.LocalRecategorization
import Sumurai.Foundations.Words
import Sumurai.Frontend.SpelledMajors
import Sumurai.Frontend.BudgetPartition
import Sumurai.Frontend.CategoryFilter
import Sumurai.Foundations.UnicodeCase
import Sumurai.Foundations.Wildcards
import Sumurai.Frontend.GlobRegExp
import Sumurai.Frontend.RuleAlphabets
import Sumurai.Frontend.RuleMatching
import Sumurai.Analytics.CategoryRules
import Sumurai.Frontend.CashBalance
import Sumurai.Frontend.TransferNeutrality
import Sumurai.Frontend.ResolverFixedPoints
import Sumurai.Amazon.Categorization
import Sumurai.Models.Months
import Sumurai.Frontend.DateKeys
import Sumurai.Frontend.UpcomingCharges
import Sumurai.Frontend.MonthlyCharges
import Sumurai.Foundations.Strides
import Sumurai.Frontend.NetDots
import Sumurai.Amazon.SubscribeAndSave
import Sumurai.Foundations.FormEncoding
import Sumurai.Foundations.Regex
import Sumurai.Foundations.Urls
import Sumurai.Frontend.Sanitization
import Sumurai.Amazon.Amounts
import Sumurai.Foundations.Recordings
import Sumurai.Auth.Provenance
import Sumurai.Auth.Accounts
import Sumurai.Connection.MidnightSync
import Sumurai.Connection.MidnightWorker
import Sumurai.Frontend.SessionManager
import Sumurai.Frontend.SpanProcessors
import Sumurai.Foundations.Pages
import Sumurai.Frontend.DuplicateCandidates
import Sumurai.Frontend.TransactionPages
import Sumurai.Frontend.BudgetCreates
import Sumurai.Foundations.Unwinding
import Sumurai.Categories.Requests
import Sumurai.Categories.RequestIsolation
import Sumurai.Categories.RulePrecedence
import Sumurai.Connection.Health
import Sumurai.Frontend.AccountIssues
