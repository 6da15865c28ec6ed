import BitcointView.Basic
import BitcointView.PriceCache
import BitcointView.Collaborators
import BitcointView.Prog
import BitcointView.Inquirer
import BitcointView.Run
import BitcointView.OracleLoop
import BitcointView.Resolution
import BitcointView.CacheDiscipline
import BitcointView.Interleaving
import BitcointView.CacheHits
import BitcointView.Sequential
import BitcointView.IgnoreCache
import BitcointView.Contract
import BitcointView.OnChain
import BitcointView.Singleton
import BitcointView.Historian
import BitcointView.OracleOrder
import BitcointView.Penalty
import BitcointView.Crypto
import BitcointView.LivePosts
import BitcointView.Messages
import BitcointView.Configuration
import BitcointView.PostAccess
import BitcointView.LoopErrors
