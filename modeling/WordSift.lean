import WordSift.Bytes
import WordSift.Command.Options
import WordSift.Command.Program
import WordSift.Files.Disk
import WordSift.Files.Path
import WordSift.Files.System
import WordSift.Lcs
import WordSift.Log
import WordSift.Main
import WordSift.Msgpack.Read
import WordSift.Msgpack.Write
import WordSift.Numeral
import WordSift.Numeral.Binary64
import WordSift.Pattern.Basic
import WordSift.Pattern.Table
import WordSift.Prompt
import WordSift.Proofs.Lcs
import WordSift.Proofs.Pattern.Compile
import WordSift.Proofs.Pattern.Language
import WordSift.Proofs.Pattern.Prefix
import WordSift.Proofs.Pattern.Rolling
import WordSift.Proofs.Pattern.Table
import WordSift.Proofs.Rows
import WordSift.Proofs.Selector
import WordSift.Proofs.Trie.Collect
import WordSift.Proofs.Trie.Entries
import WordSift.Proofs.Trie.Pruning
import WordSift.Proofs.Trie.Stopping
import WordSift.Proofs.Trie.Store
import WordSift.Proofs.Prompt
import WordSift.Proofs.WordList.Failing
import WordSift.Proofs.WordList.Index
import WordSift.Proofs.WordList.Reading
import WordSift.Selector
import WordSift.Server.Reply
import WordSift.Server.Request
import WordSift.Server.Session
import WordSift.Settings.Basic
import WordSift.Settings.Files
import WordSift.Settings.Format
import WordSift.Settings.FromToml
import WordSift.Settings.FromYaml
import WordSift.Settings.ToToml
import WordSift.Settings.ToYaml
import WordSift.Text.Base64
import WordSift.Text.Blank
import WordSift.Text.Feed
import WordSift.Text.Letter
import WordSift.Text.Lowercase
import WordSift.Text.Normalize
import WordSift.Text.Printable
import WordSift.Text.Quoted
import WordSift.Text.Utf8
import WordSift.Toml.Document
import WordSift.Toml.Scalar
import WordSift.Toml.Stamp
import WordSift.Toml.Token
import WordSift.Toml.Token.Stream
import WordSift.Toml.Value
import WordSift.Trie.Basic
import WordSift.Trie.Walk
import WordSift.WordList.Basic
import WordSift.WordList.Files
import WordSift.WordList.Index
import WordSift.WordList.Reading
import WordSift.Yaml.Encoding
import WordSift.Yaml.Event
import WordSift.Yaml.Node
import WordSift.Yaml.Schema
import WordSift.Yaml.Timestamp
import WordSift.Yaml.Token
import WordSift.Yaml.Token.Cursor
import WordSift.Yaml.Token.Property
import WordSift.Yaml.Token.Scalar
import WordSift.Yaml.Token.Stream
import WordSift.Proofs.Server.Reading
import WordSift.Proofs.Server.Session
