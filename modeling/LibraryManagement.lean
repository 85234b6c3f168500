import LibraryManagement.Controllers.Routes
import LibraryManagement.Controllers.Effects
import LibraryManagement.Controllers.Callbacks
import LibraryManagement.Lending.Consistency
import LibraryManagement.Lending.Coherence
import LibraryManagement.Lending.Copies
import LibraryManagement.Lending.Holdings
import LibraryManagement.Lending.Finality
import LibraryManagement.Access.Roles
import LibraryManagement.Lending.MembersOnly
import LibraryManagement.Lending.CanBorrow
import LibraryManagement.Lending.Sweep
import LibraryManagement.Concurrency.Limits
import LibraryManagement.Concurrency.Coherence
import LibraryManagement.Client.BorrowingsPage
import LibraryManagement.Client.ReturnControl
import LibraryManagement.Access.OwnEffects
import LibraryManagement.Access.OwnData
import LibraryManagement.Lending.OpenLoans
import LibraryManagement.Lending.LoanList
import LibraryManagement.Lending.Notifications
import LibraryManagement.Access.LoanPrivacy
import LibraryManagement.Allocation.FirstCome
import LibraryManagement.Lending.Exhaustion
import LibraryManagement.Lending.Revisions
import LibraryManagement.Server.Bestsellers
import LibraryManagement.Lending.Availability
import LibraryManagement.Client.ListPages
import LibraryManagement.Client.AuthContext
import LibraryManagement.Client.SessionConvergence
import LibraryManagement.Client.EditBook
import LibraryManagement.Catalog.Pages
import LibraryManagement.Catalog.Search
import LibraryManagement.Catalog.BookRecord
import LibraryManagement.Catalog.BookSaves
import LibraryManagement.Access.PasswordChange
import LibraryManagement.Fetching.Pager
import LibraryManagement.Client.NextPage
import LibraryManagement.Client.DueBadge
import LibraryManagement.Client.DueSoon
import LibraryManagement.Client.BorrowButton
import LibraryManagement.Lending.Reseeding
import LibraryManagement.Lending.Desk
import LibraryManagement.Lending.Acknowledged
import LibraryManagement.Concurrency.Desk
import LibraryManagement.Concurrency.Saves
import LibraryManagement.Access.Sessions
import LibraryManagement.Access.Refusals
import LibraryManagement.Registry.Register
import LibraryManagement.Access.Accounts
import LibraryManagement.Access.SignIn
import LibraryManagement.Fetching.Debounced
import LibraryManagement.Client.QuickSearch
import LibraryManagement.Relational.Ranking
import LibraryManagement.Lending.Dashboards
import LibraryManagement.Transition.Settling
import LibraryManagement.Catalog.Bestsellers
import LibraryManagement.Server.Seeds
import LibraryManagement.Access.DemoUsers
import LibraryManagement.Lending.SampleLoans
import LibraryManagement.Lending.Jobs
import LibraryManagement.Viewing.Resource
import LibraryManagement.Catalog.RoundTrip
import LibraryManagement.Concurrency.Traffic
import LibraryManagement.Relational.ForeignKey
import LibraryManagement.Concurrency.Pending
import LibraryManagement.Access.Addresses
import LibraryManagement.Access.Profiles
