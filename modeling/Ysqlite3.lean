import Ysqlite3.Misc.ByteStore
import Ysqlite3.Misc.Component
import Ysqlite3.Misc.Aead
import Ysqlite3.Vfs.Fetch
import Ysqlite3.Vfs.CryptFile
import Ysqlite3.Vfs.CryptFile.Pages
import Ysqlite3.Vfs.CryptFile.Calls
import Ysqlite3.Vfs.CryptFile.PageStore
import Ysqlite3.Vfs.CryptFile.Pragmas
import Ysqlite3.Vfs.CryptFile.History
import Ysqlite3.Vfs.CryptFile.Nonce
import Ysqlite3.Vfs.CryptFile.Reserve
import Ysqlite3.Vfs.CryptFile.Tamper
import Ysqlite3.Vfs.CryptFile.Transformation
import Ysqlite3.Vfs.CryptFile.Rollback
import Ysqlite3.Base64
import Ysqlite3.Misc.Hexadecimal
import Ysqlite3.Vfs.CryptFile.KeyFormat
import Ysqlite3.Database
import Ysqlite3.Misc.Ownership
import Ysqlite3.Database.Handles
import Ysqlite3.Database.Functions
import Ysqlite3.Database.FunctionObjects
import Ysqlite3.Misc.Places
import Ysqlite3.Statement
import Ysqlite3.Statement.Connection
import Ysqlite3.Transaction
import Ysqlite3.Transaction.Consistency
import Ysqlite3.Action
import Ysqlite3.Vfs.Methods
import Ysqlite3.Vfs.Registration
import Ysqlite3.Vfs.Wrapper.File
import Ysqlite3.Vfs.Wrapper.Vfs
import Ysqlite3.Vfs.Wrapper.Forward
import Ysqlite3.Vfs.Wrapper.Calls
import Ysqlite3.Vfs.Wrapper.Absent
import Ysqlite3.Vfs.Wrapper.Transparent
import Ysqlite3.Vfs.Wrapper.Balance
import Ysqlite3.EntryPoints
import Ysqlite3.Vfs.CryptFile.Report
import Ysqlite3.Vfs.CryptFile.Failures
import Ysqlite3.Vfs.CryptFile.Delivered
import Ysqlite3.Vfs.CryptFile.Holes
import Ysqlite3.Vfs.CryptFile.PageSizes
import Ysqlite3.Database.ReservedSize
import Ysqlite3.Statement.BindText
import Ysqlite3.Statement.ColumnIndex
import Ysqlite3.Base64.Language
import Ysqlite3.Base64.Inplace
import Ysqlite3.Base64.Canonical
import Ysqlite3.Database.Execute
import Ysqlite3.Finally
import Ysqlite3.Function.Regexp
import Ysqlite3.Function.Digest
import Ysqlite3.Statement.Cursor
import Ysqlite3.Statement.Calls
import Ysqlite3.Statement.Rows
import Ysqlite3.Statement.Accessors
import Ysqlite3.Statement.Bindings
import Ysqlite3.Vfs.CryptFile.Connections
import Ysqlite3.Vfs.CryptFile.Restore
import Ysqlite3.Vfs.CryptFile.Interleavings
import Ysqlite3.Database.Resolution
import Ysqlite3.Vfs.CryptFile.Header
import Ysqlite3.Vfs.Lookup
