import Rota.Zone.Coded

/-!
Zones of Asia.
The coding is explained beside `CodedZone`.
-/

namespace Rota.Zone.Tables

def asia : List CodedZone := [
  ⟨"Asia/Almaty",
    "LMT:18468 +05:18000 +06:21600 +07:25200",
    ["-nu1a90B37a0d0Cqi27w0D9et80C9d440D9et80C9d440D9et80C9eys0D9d6w0C9d1c0D9d1c0C9d1c0D9d1c0C",
     "9d1c0D9d1c0C9d1c0D9d1c0C9d1c0D9d1c0C9d1c0D9q000Ciq5g0B5reo0C3ljw0D9d1c0C9d1c0D9d1c0C9d1c",
     "0D9d1c0C9d1c0D9d1c0C9q000Dasw00C7x6o0Dasw00C7x6o0Dasw00C7x6o0Db5uo0C7k800Db5uo0C7k800Db5",
     "uo0C7x6o0Dasw00C7x6o0Dasw00C7x6o0Db5rw0Ca37uk0B"],
    ""⟩,
  ⟨"Asia/Amman",
    "LMT:8624 EET:7200 EEST:10800 +03:10800",
    ["-kcrtbkBm566fkC60l80Bawo40C7v980Bawo40C7v980Bayis0C9gnw0B9b9g0C7v980Bautg0C7v980B3e6840C",
     "9et80B9io40C9cyk0B9d440C9cyk0B9d440C9px80Bayis0C7rjw0Bag040C8a2k0B9zc40C8drw0Ba31g0C8zzw",
     "0B9d440C9cyk0B9d440C8n180Bag040C8a5c0Bafxc0C8n400Ba2yo0C8n400Ba2yo0C8n400Bepmo0C4deo0B9o",
     "5c0C9ew00B9b6o0C9ew00B9d1c0C9d1c0B9d1c0Casw00B7x6o0Cafxc0B8n400C9d1c0B9d1c0Casw00B7x6o0C",
     "asw00B7x6o0Cb5uo0B7k800Cb5uo0B7k800Cb5uo0B7x6o0Casw00B7x6o0Cwel80B51k40Cb5uo0B7k800Cb5uo",
     "0B7x6o0Casw00B7x6o0Casw00B7x6o0Casw00B7x6o0Casw00B7x6o0Cb5uo0B7k800Cb5uo0B64dc0Cclmk0D"],
    ""⟩,
  ⟨"Asia/Anadyr",
    "LMT:42596 +12:43200 +13:46800 +14:50400 +11:39600",
    ["-nu1sv8B379zj8Cqi27w0D9et80Cis040B9d440C9et80B9eys0C9d6w0B9d1c0C9d1c0B9d1c0C9d1c0B9d1c0C",
     "9d1c0B9d1c0C9d1c0B9d1c0C9d1c0B9d1c0C9q000Biq5g0E5reo0B3ljw0C9d1c0B9d1c0C9d1c0B9d1c0C9d1c",
     "0B9d1c0C9d1c0B9q000Casw00B7x6o0Casw00B7x6o0Casw00B7x6o0Cb5uo0B7k800Cb5uo0B7k800Cb5uo0B7x",
     "6o0Casw00B7x6o0Casw00B7x6o0Cb5uo0B7k800Cb5uo0B7k800Cb5uo0B7k800Cb5uo0B7x6o0Casw00B7x6o0C",
     "asw00Bj3440E7k800B"],
    ""⟩,
  ⟨"Asia/Aqtau",
    "LMT:12064 +04:14400 +05:18000 +06:21600",
    ["-nu15b4B379y74Cqrh3w0Diruk0C9d440D9et80C9eys0D9d6w0C9d1c0D9d1c0C9d1c0D9d1c0C9d1c0D9d1c0C",
     "9d1c0D9d1c0C9d1c0D9d1c0C9d1c0D9q000Ciq5g0B5reo0C3ljw0D9d1c0C9d1c0D9d1c0C9d1c0D9cyk0C5k0B",
     "9d1c0C9d1c0B9q000Casw00B7x6o0Casw00B7x6o0Casw00B7x6o0Cb5uo0B7k800Cb5uo0B7k800Cb5uo0B7x6o",
     "0Casw00B7x6o0Casw00B7x6o0C"],
    ""⟩,
  ⟨"Asia/Aqtobe",
    "LMT:13720 +04:14400 +05:18000 +06:21600",
    ["-nu16l4B379zh4Cqi27w0Ds6qk0C9d440D9et80C9eys0D9d6w0C9d1c0D9d1c0C9d1c0D9d1c0C9d1c0D9d1c0C",
     "9d1c0D9d1c0C9d1c0D9d1c0C9d1c0D9q000Ciq5g0B5reo0C3ljw0D9d1c0C9d1c0D9d1c0C9d1c0D9d1c0C9d1c",
     "0D9d1c0C9q000Dasw00C7x6o0Dasw00C7x6o0Dasw00C7x6o0Db5uo0C7k800Db5uo0C7k800Db5uo0C7x6o0Das",
     "w00C7x6o0Dasw00C7x6o0Db5rw0C"],
    ""⟩,
  ⟨"Asia/Ashgabat",
    "LMT:14012 +04:14400 +05:18000 +06:21600",
    ["-nu16t8B379zp8Cqi27w0D9et80C9d440D9et80C9d440D9et80C9eys0D9d6w0C9d1c0D9d1c0C9d1c0D9d1c0C",
     "9d1c0D9d1c0C9d1c0D9d1c0C9d1c0D9d1c0C9d1c0D9q000Ciq5g0B5reo0C"],
    ""⟩,
  ⟨"Asia/Atyrau",
    "LMT:12464 +03:10800 +05:18000 +06:21600 +04:14400",
    ["-nu15m8B37a1a8Cqrh140Diruk0C9d440D9et80C9eys0D9d6w0C9d1c0D9d1c0C9d1c0D9d1c0C9d1c0D9d1c0C",
     "9d1c0D9d1c0C9d1c0D9d1c0C9d1c0D9q000Ciq5g0E5reo0C3ljw0D9d1c0C9d1c0D9d1c0C9d1c0D9d1c0C9d1c",
     "0D9d1c0C9q000Dasw00C7x6o0Dasw00C7x6o0Dasw00Cj3440E7k800Cb5uo0E7k800Cb5uo0E7x6o0Casw00E7x",
     "6o0Casw00E7x6o0C"],
    ""⟩,
  ⟨"Asia/Baghdad",
    "LMT:10660 BMT:10656 +03:10800 +04:14400",
    ["-15r1hk4Bem11c4Cxkn3w0D7v980C9b9g0D9gnw0C9eys0D9et80C9d440D9b9g0C9d1c0D9d1c0C9d1c0D9d1c0",
     "C9d1c0D9d1c0C9d1c0D9d1c0C9d1c0D9q000C9f1k0D9ew00C9ew00D9ew00C9d1c0D9ew00C9d1c0D9ew00C9d1",
     "c0D9ew00C9ew00D9ew00C9d1c0D9ew00C9d1c0D9ew00C9d1c0D9ew00C9ew00D9ew00C9d1c0D9ew00C9d1c0D9",
     "ew00C9d1c0D9ew00C9ew00D9ew00C9d1c0D9ew00C9d1c0D9ew00C9d1c0D9ew00C"],
    ""⟩,
  ⟨"Asia/Baku",
    "LMT:11964 +03:10800 +04:14400 +05:18000",
    ["-nu158cBh4tkwcCckinw0D9et80C9d440D9et80C9d440D9et80C9eys0D9d6w0C9d1c0D9d1c0C9d1c0D9d1c0C",
     "9d1c0D9d1c0C9d1c0D9d1c0C9d1c0D9d1c0C9d1c0D9q000Ciq5g0B9d1c0C239ew0Dasw00C7x3w0Dasw00C7x6",
     "o0Dasw00C7x6o0Db5uo0C7k800Db5uo0C7k800Db5uo0C7x6o0Dasw00C7x6o0Dasw00C7x6o0Db5uo0C7k800Db",
     "5uo0C7k800Db5uo0C7k800Db5uo0C7x6o0Dasw00C7x6o0Dasw00C7x6o0Db5uo0C7k800Db5uo0C7k800Db5uo0",
     "C7x6o0Dasw00C7x6o0Dasw00C7x6o0Dasw00C"],
    ""⟩,
  ⟨"Asia/Bangkok",
    "LMT:24124 BMT:24124 +07:25200",
    ["-1ayyla4Bl06800C"],
    ""⟩,
  ⟨"Asia/Barnaul",
    "LMT:20100 +06:21600 +07:25200 +08:28800",
    ["-q4ljicB5hu6ucCqi27w0D9et80C9d440D9et80C9d440D9et80C9eys0D9d6w0C9d1c0D9d1c0C9d1c0D9d1c0C",
     "9d1c0D9d1c0C9d1c0D9d1c0C9d1c0D9d1c0C9d1c0D9q000Ciq5g0B5reo0C3ljw0D9d1c0C9d1c0D9d1c0C9d1c",
     "0D9d1c0C9d1c0D38fo0C64og0B9q000Casw00B7x6o0Casw00B7x6o0Casw00B7x6o0Cb5uo0B7k800Cb5uo0B7k",
     "800Cb5uo0B7x6o0Casw00B7x6o0Casw00B7x6o0Cb5uo0B7k800Cb5uo0B7k800Cb5uo0B7k800Cb5uo0B7x6o0C",
     "asw00B7x6o0Casw00B7x6o0Cb5uo0B7k800C1vbzw0Bqnc40C"],
    ""⟩,
  ⟨"Asia/Beirut",
    "LMT:8520 EET:7200 EEST:10800",
    ["-1ayy98oBkzyucoCaunw0B88dg0C9et80B8yas0Ca2vw0Ba31g0C7k580Bhjqo40C7v980Bawo40C7v980Bawo40",
     "C7v980Bayis0C7v980Bawo40C7v980B5lhs40C56yk0Bawo40C7v980Bawo40C7v980Bawo40C7v980Bayis0C7v",
     "980Bawo40C7v980Bautg0C7v980B2wxus0C8n180Ba4w40C8n180Ba4w40C8n180Ba4w40C8n180Bbs5g0C71mk0",
     "Balk40C86d80Ba4w40C8n180Ba4w40C8n180Ba6qs0C80t80B905g0C9cyk0B9d440C9cyk0B9d440C9cyk0B9q2",
     "s0C9cyk0B9d440C9cyk0B9d440C9cyk0B"],
    "1999 C 3.5.0/0 B 10.5.0/0"⟩,
  ⟨"Asia/Bishkek",
    "LMT:17904 +05:18000 +06:21600 +07:25200",
    ["-nu19tcB379zxcCqi27w0D9et80C9d440D9et80C9d440D9et80C9eys0D9d6w0C9d1c0D9d1c0C9d1c0D9d1c0C",
     "9d1c0D9d1c0C9d1c0D9d1c0C9d1c0D9d1c0C9d1c0D9q000Ch8dc0Bbkl80C8n180Ba31g0C8n180Ba31g0C8n18",
     "0Ba31g0C8n180Ba31g0C8zzw0B9db20Cast80B7x9g0Cast80B7x9g0Cb5rw0B7kas0Cb5rw0B7kas0Cb5rw0B7x",
     "9g0Cast80B7x9g0Cast80B7x9g0Cb5rw0B7kas0C"],
    ""⟩,
  ⟨"Asia/Chita",
    "LMT:27232 +08:28800 +09:32400 +10:36000",
    ["-q4cfogB5hkxggCqi27w0D9et80C9d440D9et80C9d440D9et80C9eys0D9d6w0C9d1c0D9d1c0C9d1c0D9d1c0C",
     "9d1c0D9d1c0C9d1c0D9d1c0C9d1c0D9d1c0C9d1c0D9q000Ciq5g0B5reo0C3ljw0D9d1c0C9d1c0D9d1c0C9d1c",
     "0D9d1c0C9d1c0D9d1c0C9q000Dasw00C7x6o0Dasw00C7x6o0Dasw00C7x6o0Db5uo0C7k800Db5uo0C7k800Db5",
     "uo0C7x6o0Dasw00C7x6o0Dasw00C7x6o0Db5uo0C7k800Db5uo0C7k800Db5uo0C7k800Db5uo0C7x6o0Dasw00C",
     "7x6o0Dasw00C7x6o0Db5uo0C7k800D1vbzw0Bqnew0C"],
    ""⟩,
  ⟨"Asia/Choibalsan",
    "LMT:27480 +07:25200 +08:28800 +10:36000 +09:32400",
    ["-xmct7cB11sndrcC2qk2k0D9eqg0E9eys0D9cyk0E9d440D9cyk0E9d440D9cyk0E9d440D9cyk0E9d440D9cyk0",
     "E9d440D9cyk0E9d440D9px80E9d440D9cyk0E9d440D9cyk0E9d440D9cyk0E9d440D9cyk0E9d440D9cyk0E9q2",
     "s0D9cyk0E9d440D9cyk0E9d440D9cyk0E1ckdo0D7x3w0E9d440D9cyk0E9d440D9cyk0E9d440D9cyk0E9d440D",
     "9cyk0E9d440D9px80Es6qk0C3nc0c0E9ct00C9d9o0E9ct00C"],
    ""⟩,
  ⟨"Asia/Colombo",
    "LMT:19164 MMT:19172 +0530:19800 +06:21600 +0630:23400",
    ["-1ayyhgcBdkh6nsCisle6kDcajy0E1mp2u0Cqetjw0E7x5a0D4xvqq0C"],
    ""⟩,
  ⟨"Asia/Damascus",
    "LMT:8712 EET:7200 EEST:10800 +03:10800",
    ["-q3gk20B5k6q0C8n180Ba31g0C8n180Ba31g0C8n180Ba31g0C8zzw0Bk4hk40C7yyk0Bawo40C7tek0Bb0dg0C7",
     "v980Bawo40C7tek0Balk40C887w0Bawo40C7v980Bayis0C7v980Bawo40C7v980Bawo40C7v980Bawo40C7v980",
     "Bayis0C7v980Bawo40C7v980Bawo40C7v980Bawo40C7v980Bayis0C7v980Bawo40C6bp80Bcg840C6bp80B2eh",
     "1g0C8zzw0B9ts40C8zzw0Bpvk40Cc33w0B7cw40Ccjrw0B6zxg0Cbtuk0B7rpg0C9gnw0B9d440C9cyk0B9et80C",
     "9et80B9rxg0C91uk0B92040C9et80B9o840C9et80B9d440C9et80B9eys0C9et80B9b9g0C9gnw0B99es0C9iik",
     "0B9d440C9et80B9eys0C9et80B9d440C9et80B9d440C9et80B9d440C9et80B9eys0C9et80B9d440C9et80B9d",
     "440C8y580B9q2s0Cb5rw0B7x9g0Caunw0B7ig40Cb5rw0B7x9g0Cast80B7x9g0Cast80B7x9g0Cast80B7x9g0C",
     "ast80B7x9g0Cb5rw0B7kas0Cb5rw0B7kas0Cb5rw0B7x9g0Cast80B7x9g0Cast80B7x9g0Cast80B7x9g0Cb5rw",
     "0B7kas0Cb5rw0B7kas0Cb5rw0D"],
    ""⟩,
  ⟨"Asia/Dhaka",
    "LMT:21700 HMT:21200 +0630:23400 +0530:19800 +06:21600 +07:25200",
    ["-15r1q2sBr080dwCbmgywD5lxg0C4qknw0Eu4ijy0Fa1400E"],
    ""⟩,
  ⟨"Asia/Dili",
    "LMT:30140 +08:28800 +09:32400",
    ["-u9s4l8Bfqcu98Chufs00Bcpz440C"],
    ""⟩,
  ⟨"Asia/Dubai",
    "LMT:13272 +04:14400",
    ["-q3gnkoB"],
    ""⟩,
  ⟨"Asia/Dushanbe",
    "LMT:16512 +05:18000 +06:21600 +07:25200",
    ["-nu18qoB379yuoCqi27w0D9et80C9d440D9et80C9d440D9et80C9eys0D9d6w0C9d1c0D9d1c0C9d1c0D9d1c0C",
     "9d1c0D9d1c0C9d1c0D9d1c0C9d1c0D9d1c0C9d1c0D9q000Chp1c0B"],
    ""⟩,
  ⟨"Asia/Famagusta",
    "LMT:8148 EET:7200 EEST:10800 +03:10800",
    ["-p4bqacBrvhy2cC9cyk0Bb42s0C7nuk0B8yas0C8zzw0B9q2s0C9et80B9b9g0C9cyk0B9q2s0C8zzw0B9d440C9",
     "cyk0B9d440C9cyk0B9d440C9cyk0B9d440C9px80B9d440C9cyk0B9d440C9cyk0B9d440C9cyk0B9d440C9cyk0",
     "B9d440C9cyk0B9d440C9px80B9d440C9cyk0B9d440C9cyk0B9d440C9cyk0B9d440C9cyk0B9d440C9cyk0B9q2",
     "s0C9cyk0B9d440C9cyk0B9d440Cat4c0B7x6o0Cb5uo0B7k800Cb5uo0B7k800Cb5uo0B7x6o0Casw00B7x6o0Ca",
     "sw00B7x6o0Cb5uo0B7k800Cb5uo0B7k800Cb5uo0B7k800Cb5uo0B7x6o0Casw00B7x6o0Casw00B7x6o0Cb5uo0",
     "B7k800Cb5uo0B7k800Cb5uo0B7x6o0Casw00B7x6o0Casw00B7x6o0Casw00B7x6o0C8h8w0Dleg40C8c0B"],
    "2018 C 3.5.0/10800 B 10.5.0/14400"⟩,
  ⟨"Asia/Gaza",
    "LMT:8272 EET:7200 EEST:10800 IST:7200 IDT:10800",
    ["-1054x1sBkp9t1sC69xc0B2f1c0C10q800B7rmo0Cb0ao0B7thc0Cb0ao0B8jeo0Ca8io0B8jeo0Ca8io0B5hoig",
     "0C7el80Bawo40C7v980Bawqw0C7tk40Bb07w0C7tk40Bayd80C7tk40Bayd80C7tk40Bayd80C7tk40Bb07w0C7t",
     "k40Bayd80C7tk40Bayd80C7ves0Bawik0C1sns0D3p6is0E51ek0D9q2s0E6u7w0D2kjk40E25s00D1weyo0E5re",
     "o0Dbvs00E776k0Ddbpg0E5rbw0Dbbhg0E7rjw0Dasys0E7k580Dc8tg0E6h980Dag040E7x3w0Dasys0E8a2k0Da",
     "sys0E8a2k0Dap9g0E80t80Dap9g0E7nuk0Db2840E80t80D66as0B4vxc0C8n400Ba2yo0C8n400Ba2yo0C8n400",
     "Basw00C9cyk0B9q2s0C9cyk0B9d440C9cyk0B9d440C9cyk0B9d440C9cyk0B9d440C8n400Ba2yo0C8ulg0B97e",
     "k0C8y580B9ts40C8hms0Ba4qk0C7x3w0Basys0C8a5c0Bahs1oC71micBbzk5oC69uicBcg840C902o0B9q000C9",
     "cyk0B9d440Cast80B7z440Car1c0B7z440Cb5rw0B7kas0Cb5rw0B7kas0Cb5rw0B7vc00Caunw0B7x9g0Casw00",
     "B7x6o0Cb4000B7nxc0Cb42s0B9d440C9cyk0B905g0C9px80B8n6s0Ca2vw0B7x9g0Cast80B7x9g0Cb5rw0B7ka",
     "s0Cb5rw0B7kas0Cb5rw0B7x9g0Cast80B7x9g0Cast80B7x9g0Cb5rw0B7kas0Cb5rw0B7kas0Cb5rw0B7kas0Cb",
     "5rw0B7x9g0Cafuk0B8a840Ca2vw0B8n6s0C9cyk0B9d440C8zzw0B9q2s0C8a2k0B2itg0Ccvw0B7x9g0C7k580B",
     "25us0C12t80B7x9g0C776k0B25us0C1frw0B7x9g0C6h980B2itg0C1sqk0B7x9g0C64ak0B25us0C2vmk0B7kas",
     "0C5rbw0B25us0C38l80B7kas0C51ek0B2itg0C3ljw0B7x9g0C4bh80B25us0C4bh80B7x9g0C3ljw0B2itg0C4o",
     "fw0B7x9g0C38l80B25us0C5rbw0B7kas0C2vmk0B25us0C64ak0B7kas0C25p80B2itg0C6h980B7x9g0C1frw0B",
     "25us0C776k0B7x9g0Cpuk0B2itg0C7k580B7x9g0Ccvw0B2itg0C7x3w0Ba31g0C8zzw0B9d440C9cyk0B8n6s0C",
     "a2vw0B8a840Cafuk0B7x9g0Cast80B7x9g0Cb5rw0B7kas0Cb5rw0B7kas0Cb5rw0B7kas0Cb5rw0B7x9g0Cast8",
     "0B7x9g0Cast80B7x9g0Cb5rw0B7kas0Cb5rw0B7kas0Cast80B8a840Ca2vw0B8n6s0C9px80B905g0C8zzw0B9q",
     "2s0C8n180B25us0Ccvw0B7kas0C8a2k0B25us0Cpuk0B7kas0C7k580B2itg0C12t80B7x9g0C6u7w0B25us0C1s",
     "qk0B7x9g0C64ak0B2itg0C25p80B7x9g0C5rbw0B2itg0C2vmk0B7kas0C5ed80B25us0C3ljw0B7kas0C4ofw0B",
     "2itg0C3yik0B7x9g0C3yik0B25us0C4ofw0B7x9g0C3ljw0B25us0C51ek0B7x9g0C2vmk0B2itg0C5ed80B7x9g",
     "0C2inw0B25us0C6h980B7kas0C1sqk0B2itg0C6u7w0B7kas0C1frw0B2itg0C776k0B7x9g0Cpuk0B25us0C7x3",
     "w0B"],
    "2087 C 3.4.4/180000 B 10.4.4/180000"⟩,
  ⟨"Asia/Hebron",
    "LMT:8423 EET:7200 EEST:10800 IST:7200 IDT:10800",
    ["-1054x5zBkp9t5zC69xc0B2f1c0C10q800B7rmo0Cb0ao0B7thc0Cb0ao0B8jeo0Ca8io0B8jeo0Ca8io0B5hoig",
     "0C7el80Bawo40C7v980Bawqw0C7tk40Bb07w0C7tk40Bayd80C7tk40Bayd80C7tk40Bayd80C7tk40Bb07w0C7t",
     "k40Bayd80C7tk40Bayd80C7ves0Bawik0C1sns0D3p6is0E51ek0D9q2s0E6u7w0D2kjk40E25s00D1weyo0E5re",
     "o0Dbvs00E776k0Ddbpg0E5rbw0Dbbhg0E7rjw0Dasys0E7k580Dc8tg0E6h980Dag040E7x3w0Dasys0E8a2k0Da",
     "sys0E8a2k0Dap9g0E80t80Dap9g0E7nuk0Db2840E80t80D66as0B4vxc0C8n400Ba2yo0C8n400Ba2yo0C8n400",
     "Basw00C9cyk0B9q2s0C9cyk0B9d440C9cyk0B9d440C9cyk0B9d440C9cyk0B9d440C8n400Ba2yo0C8ulg0B97e",
     "k0C8y580B9ts40C8hms0Ba4qk0C82nw0Banes0C8a5c0Bafxc0C73h80Bbzk5oC69uicB1hs40C1lbw0B9d440C9",
     "02o0B9q000C9cyk0B9d440Cast80B7z440Car1c0B7z440Cb5rw0B7kas0Cb5rw0B7kas0Cb5rw0B7vc00Caunw0",
     "B7x9g0Casw00B7x6o0Cb4000B7nxc0Cb42s0B9d440C9cyk0B905g0C9px80B8n6s0Ca2vw0B7x9g0Cast80B7x9",
     "g0Cb5rw0B7kas0Cb5rw0B7kas0Cb5rw0B7x9g0Cast80B7x9g0Cast80B7x9g0Cb5rw0B7kas0Cb5rw0B7kas0Cb",
     "5rw0B7kas0Cb5rw0B7x9g0Cafuk0B8a840Ca2vw0B8n6s0C9cyk0B9d440C8zzw0B9q2s0C8a2k0B2itg0Ccvw0B",
     "7x9g0C7k580B25us0C12t80B7x9g0C776k0B25us0C1frw0B7x9g0C6h980B2itg0C1sqk0B7x9g0C64ak0B25us",
     "0C2vmk0B7kas0C5rbw0B25us0C38l80B7kas0C51ek0B2itg0C3ljw0B7x9g0C4bh80B25us0C4bh80B7x9g0C3l",
     "jw0B2itg0C4ofw0B7x9g0C38l80B25us0C5rbw0B7kas0C2vmk0B25us0C64ak0B7kas0C25p80B2itg0C6h980B",
     "7x9g0C1frw0B25us0C776k0B7x9g0Cpuk0B2itg0C7k580B7x9g0Ccvw0B2itg0C7x3w0Ba31g0C8zzw0B9d440C",
     "9cyk0B8n6s0Ca2vw0B8a840Cafuk0B7x9g0Cast80B7x9g0Cb5rw0B7kas0Cb5rw0B7kas0Cb5rw0B7kas0Cb5rw",
     "0B7x9g0Cast80B7x9g0Cast80B7x9g0Cb5rw0B7kas0Cb5rw0B7kas0Cast80B8a840Ca2vw0B8n6s0C9px80B90",
     "5g0C8zzw0B9q2s0C8n180B25us0Ccvw0B7kas0C8a2k0B25us0Cpuk0B7kas0C7k580B2itg0C12t80B7x9g0C6u",
     "7w0B25us0C1sqk0B7x9g0C64ak0B2itg0C25p80B7x9g0C5rbw0B2itg0C2vmk0B7kas0C5ed80B25us0C3ljw0B",
     "7kas0C4ofw0B2itg0C3yik0B7x9g0C3yik0B25us0C4ofw0B7x9g0C3ljw0B25us0C51ek0B7x9g0C2vmk0B2itg",
     "0C5ed80B7x9g0C2inw0B25us0C6h980B7kas0C1sqk0B2itg0C6u7w0B7kas0C1frw0B2itg0C776k0B7x9g0Cpu",
     "k0B25us0C7x3w0B"],
    "2087 C 3.4.4/180000 B 10.4.4/180000"⟩,
  ⟨"Asia/Ho_Chi_Minh",
    "LMT:25590 PLMT:25590 +07:25200 +08:28800 +09:32400",
    ["-x5692uB2isio0Cgj25iuD15ct80E8so00Ctmtk0D4azmo0C2cm7w0D8285c0C"],
    ""⟩,
  ⟨"Asia/Hong_Kong",
    "LMT:27402 HKT:28800 HKST:32400 HKWT:30600 JST:32400",
    ["-y0ilx6Bj44yp6C5k000D4d4y0E2195i0B7x3w0Cbj320B6uao0Cbvs00B7x6o0C9d1c0B7x6o0Casw00B7x6o0C",
     "asw00B7x6o0Casw00B8a5c0Casw00B7x6o0Cast80B77c40Cbiqk0B77c40Cbvp80B6udg0Cbvp80B77c40Cbiqk",
     "0B77c40Cbiqk0B77c40Cbiqk0B77c40Cbvp80B6udg0Cbvp80B6udg0Cbvp80B77c40Cbiqk0B77c40Cbiqk0B8n",
     "6s0C9cyk0B9d440C9cyk0B9d440C9px80B9d440C9cyk0B9d440C9cyk0B9d440C9cyk0B9d440C9cyk0B9d440C",
     "9px80B9d440C9cyk0B3lpg0Cf4d80B9d440C9cyk0B9d440C9cyk0B1c9440C8a2k0B"],
    ""⟩,
  ⟨"Asia/Hovd",
    "LMT:21996 +06:21600 +07:25200 +08:28800",
    ["-xmcoz0B11sncb0C2qk2k0D9et80C9eys0D9cyk0C9d440D9cyk0C9d440D9cyk0C9d440D9cyk0C9d440D9cyk0",
     "C9d440D9cyk0C9d440D9px80C9d440D9cyk0C9d440D9cyk0C9d440D9cyk0C9d440D9cyk0C9d440D9cyk0C9q2",
     "s0D9cyk0C9d440D9cyk0C9d440D9cyk0C1ckdo0D7x3w0C9d440D9cyk0C9d440D9cyk0C9d440D9cyk0C9d440D",
     "9cyk0C9d440D9px80C4fio40D9ct00C9d9o0D9ct00C"],
    ""⟩,
  ⟨"Asia/Irkutsk",
    "LMT:25025 IMT:25025 +07:25200 +08:28800 +09:32400",
    ["-1ayylz5Bkwq5c0C5fh175Dqi27w0E9et80D9d440E9et80D9d440E9et80D9eys0E9d6w0D9d1c0E9d1c0D9d1c",
     "0E9d1c0D9d1c0E9d1c0D9d1c0E9d1c0D9d1c0E9d1c0D9d1c0E9q000Diq5g0C5reo0D3ljw0E9d1c0D9d1c0E9d",
     "1c0D9d1c0E9d1c0D9d1c0E9d1c0D9q000Easw00D7x6o0Easw00D7x6o0Easw00D7x6o0Eb5uo0D7k800Eb5uo0D",
     "7k800Eb5uo0D7x6o0Easw00D7x6o0Easw00D7x6o0Eb5uo0D7k800Eb5uo0D7k800Eb5uo0D7k800Eb5uo0D7x6o",
     "0Easw00D7x6o0Easw00D7x6o0Eb5uo0D7k800E1vbzw0D"],
    ""⟩,
  ⟨"Asia/Jakarta",
    "LMT:25632 BMT:25632 +0720:26400 +0730:27000 +09:32400 +08:28800 WIB:25200",
    ["-1hftyg0Btfi0yoC4m0h40D4wdzjcE1tu960D1cx860F11jta0D74uc20G"],
    ""⟩,
  ⟨"Asia/Jayapura",
    "LMT:33768 +09:32400 +0930:34200 WIT:32400",
    ["-jebm20B66bqe0Ca37vy0D"],
    ""⟩,
  ⟨"Asia/Jerusalem",
    "LMT:8454 JMT:8440 IST:7200 IDT:10800 IDDT:14400",
    ["-1ayy96uBjtxuoeCbp5aigD69xc0C2f1c0D10q800C7rmo0Db0ao0C7thc0Db0ao0C8jeo0Da8io0C8jeo0Da8io",
     "0Ct9pc0E571c0D34yo0C9b6o0D9gqo0C8jeo0D7thc0Ca6o00Dbitc0C8a5c0D9d1c0C902o0D7x6o0Ce1k00D4o",
     "io0Ce1k00D4oio0Cdolc0D64dc0Casw00D7k800C8rfeg0D51ek0C9q2s0D6u7w0C2kjk40D25s00C1weyo0D5re",
     "o0Cbvs00D776k0Cdbpg0D5rbw0Cbbhg0D7rjw0Casys0D7k580Cc8tg0D6h980Cag040D7x3w0Casys0D8a2k0Ca",
     "sys0D8a2k0Cap9g0D80t80Cap9g0D7nuk0Cb2840D80t80C9zc40D9iik0C9kis0D93p80C9mdg0D8qqk0Capf00",
     "D7x3w0Cbiw40D8zx40C9io40D8n180C9kis0D9vh80C8ulg0D9px80C9mdg0D8n180C9tuw0D9tmk0C8wg40D9gn",
     "w0C99es0D8qqk0C9zc40D9tmk0C8wg40D9gnw0C99es0D8qqk0Cacas0D9gnw0C99es0D93p80C"],
    "2013 D 3.4.4/93600 C 10.5.0/7200"⟩,
  ⟨"Asia/Kabul",
    "LMT:16608 +04:14400 +0430:16200",
    ["-15r1m5cBspc1pcC"],
    ""⟩,
  ⟨"Asia/Kamchatka",
    "LMT:38076 +11:39600 +12:43200 +13:46800",
    ["-olrupoB3z045oCqi27w0D9et80C9d440D9et80C9d440D9et80C9eys0D9d6w0C9d1c0D9d1c0C9d1c0D9d1c0C",
     "9d1c0D9d1c0C9d1c0D9d1c0C9d1c0D9d1c0C9d1c0D9q000Ciq5g0B5reo0C3ljw0D9d1c0C9d1c0D9d1c0C9d1c",
     "0D9d1c0C9d1c0D9d1c0C9q000Dasw00C7x6o0Dasw00C7x6o0Dasw00C7x6o0Db5uo0C7k800Db5uo0C7k800Db5",
     "uo0C7x6o0Dasw00C7x6o0Dasw00C7x6o0Db5uo0C7k800Db5uo0C7k800Db5uo0C7k800Db5uo0C7x6o0Dasw00C",
     "7x6o0Dasw00Cj3440B7k800C"],
    ""⟩,
  ⟨"Asia/Karachi",
    "LMT:16092 +0530:19800 +0630:23400 +05:18000 PKT:18000 PKST:21600",
    ["-wvpb30Bim3zt0C1mn180B33xpg0Da63o20Eg72qo0F9cyk0E2y85g0F7v980E8hms0Faaak0E"],
    ""⟩,
  ⟨"Asia/Kathmandu",
    "LMT:20476 +0530:19800 +0545:20700",
    ["-q3gt4sByg2lusC"],
    ""⟩,
  ⟨"Asia/Khandyga",
    "LMT:32533 +08:28800 +09:32400 +10:36000 +11:39600",
    ["-q4cjrpB5hl1jpCqi27w0D9et80C9d440D9et80C9d440D9et80C9eys0D9d6w0C9d1c0D9d1c0C9d1c0D9d1c0C",
     "9d1c0D9d1c0C9d1c0D9d1c0C9d1c0D9d1c0C9d1c0D9q000Ciq5g0B5reo0C3ljw0D9d1c0C9d1c0D9d1c0C9d1c",
     "0D9d1c0C9d1c0D9d1c0C9q000Dasw00C7x6o0Dasw00C7x6o0Dasw00C7x6o0Db5uo0C7k800Db5uo0C7k800Db5",
     "uo0C7x6o0Dasw00C7x6o0Dasw00C3fx40D4h6s0Eb5uo0D7k800Eb5uo0D7k800Eb5uo0D7k800Eb5uo0D7x6o0E",
     "asw00D7x6o0Easw00D7x6o0Eb5uo0D7k800E8ql00D1mlho0C"],
    ""⟩,
  ⟨"Asia/Kolkata",
    "LMT:21208 HMT:21200 MMT:19270 IST:19800 +0630:23400",
    ["-1oaa314B83glc8Cisc6tmDinnm9aEbmfw0D5lxg0E1mn180D"],
    ""⟩,
  ⟨"Asia/Krasnoyarsk",
    "LMT:22286 +06:21600 +07:25200 +08:28800",
    ["-q37l72B5gg8j2Cqi27w0D9et80C9d440D9et80C9d440D9et80C9eys0D9d6w0C9d1c0D9d1c0C9d1c0D9d1c0C",
     "9d1c0D9d1c0C9d1c0D9d1c0C9d1c0D9d1c0C9d1c0D9q000Ciq5g0B5reo0C3ljw0D9d1c0C9d1c0D9d1c0C9d1c",
     "0D9d1c0C9d1c0D9d1c0C9q000Dasw00C7x6o0Dasw00C7x6o0Dasw00C7x6o0Db5uo0C7k800Db5uo0C7k800Db5",
     "uo0C7x6o0Dasw00C7x6o0Dasw00C7x6o0Db5uo0C7k800Db5uo0C7k800Db5uo0C7k800Db5uo0C7x6o0Dasw00C",
     "7x6o0Dasw00C7x6o0Db5uo0C7k800D1vbzw0C"],
    ""⟩,
  ⟨"Asia/Kuching",
    "LMT:26480 +0730:27000 +08:28800 +0820:30000 +09:32400",
    ["-mvof3kB3khwxkC1epvy0D4ohqoCe5a9cD4ohqoCe3flcD4ohqoCe3flcD4ohqoCe3flcD4ohqoCe5a9cD4ohqoC",
     "e3flcD4ohqoC3ajlcE1v2qk0C"],
    ""⟩,
  ⟨"Asia/Macau",
    "LMT:27250 CST:28800 +09:32400 +10:36000 CDT:32400",
    ["-y0i2cyBjdvyoyC6onw0Dac580C8fs40D7v980C11luw0Bawlc0E7vc00Bac800Ebko00B7x6o0E9d1c0B7vc00E",
     "asw00B7x6o0Easw00B7x6o0Eauqo0B88ao0Easw00B7x6o0Easw00B779c0Ebitc0B779c0Ebvs00B6uao0Ebw1q",
     "0B77c40Ebiqk0B77c40Ebiqk0B77c40Ebiqk0B77c40Ebvp80B6udg0Ebvp80B6udg0Ebvp80B77c40Ebiqk0B77",
     "c40Ebiqk0B8n6s0E9cvs0B9d6w0E9cvs0B9d6w0E9px80B9d440E9cyk0B9d440E9cyk0B9d440E9cyk0B9d440E",
     "9cyk0B9d440E9px80B9d440E9cyk0B3lpg0Ef4d80B9d440E9cyk0B9d440E9cyk0B1c9440E8a2k0B"],
    ""⟩,
  ⟨"Asia/Magadan",
    "LMT:36192 +10:36000 +11:39600 +12:43200",
    ["-nu1nxcB37a05cCqi27w0D9et80C9d440D9et80C9d440D9et80C9eys0D9d6w0C9d1c0D9d1c0C9d1c0D9d1c0C",
     "9d1c0D9d1c0C9d1c0D9d1c0C9d1c0D9d1c0C9d1c0D9q000Ciq5g0B5reo0C3ljw0D9d1c0C9d1c0D9d1c0C9d1c",
     "0D9d1c0C9d1c0D9d1c0C9q000Dasw00C7x6o0Dasw00C7x6o0Dasw00C7x6o0Db5uo0C7k800Db5uo0C7k800Db5",
     "uo0C7x6o0Dasw00C7x6o0Dasw00C7x6o0Db5uo0C7k800Db5uo0C7k800Db5uo0C7k800Db5uo0C7x6o0Dasw00C",
     "7x6o0Dasw00C7x6o0Db5uo0C7k800D1vbzw0Bs39k0C"],
    ""⟩,
  ⟨"Asia/Makassar",
    "LMT:28656 MMT:28656 +08:28800 +09:32400 WITA:28800",
    ["-q3gzg0B6p5hc0C4u87w0D1w02k0E"],
    ""⟩,
  ⟨"Asia/Manila",
    "LMT:-57360 LMT:29040 PST:28800 PDT:32400 JST:32400",
    ["-1t8ix2oBsd8tc0Cjk45ioD4qak0C2qidg0E1b2d80C4xf440D442k0Ccdqdg0D9et80C"],
    ""⟩,
  ⟨"Asia/Nicosia",
    "LMT:8008 EET:7200 EEST:10800",
    ["-p4bq6gBrvhxygC9cyk0Bb42s0C7nuk0B8yas0C8zzw0B9q2s0C9et80B9b9g0C9cyk0B9q2s0C8zzw0B9d440C9",
     "cyk0B9d440C9cyk0B9d440C9cyk0B9d440C9px80B9d440C9cyk0B9d440C9cyk0B9d440C9cyk0B9d440C9cyk0",
     "B9d440C9cyk0B9d440C9px80B9d440C9cyk0B9d440C9cyk0B9d440C9cyk0B9d440C9cyk0B9d440C9cyk0B9q2",
     "s0C9cyk0B9d440C9cyk0B9d440Cat4c0B"],
    "1999 C 3.5.0/10800 B 10.5.0/14400"⟩,
  ⟨"Asia/Novokuznetsk",
    "LMT:20928 +06:21600 +07:25200 +08:28800",
    ["-nu36tcB37bu5cCqi27w0D9et80C9d440D9et80C9d440D9et80C9eys0D9d6w0C9d1c0D9d1c0C9d1c0D9d1c0C",
     "9d1c0D9d1c0C9d1c0D9d1c0C9d1c0D9d1c0C9d1c0D9q000Ciq5g0B5reo0C3ljw0D9d1c0C9d1c0D9d1c0C9d1c",
     "0D9d1c0C9d1c0D9d1c0C9q000Dasw00C7x6o0Dasw00C7x6o0Dasw00C7x6o0Db5uo0C7k800Db5uo0C7k800Db5",
     "uo0C7x6o0Dasw00C7x6o0Dasw00C7x6o0Db5uo0C7k800Db5uo0C7k800Db5uo0C7k800Db5uo0C7x6o0Dasw00C",
     "7x6o0Dasw00Cj3440B7k800C"],
    ""⟩,
  ⟨"Asia/Novosibirsk",
    "LMT:19900 +06:21600 +07:25200 +08:28800",
    ["-q4do0sB5hmbcsCqi27w0D9et80C9d440D9et80C9d440D9et80C9eys0D9d6w0C9d1c0D9d1c0C9d1c0D9d1c0C",
     "9d1c0D9d1c0C9d1c0D9d1c0C9d1c0D9d1c0C9d1c0D9q000Ciq5g0B5reo0C3ljw0D9d1c0C9d1c0D2vh00C6hn4",
     "0B9d1c0C9d1c0B9d1c0C9d1c0B9q000Casw00B7x6o0Casw00B7x6o0Casw00B7x6o0Cb5uo0B7k800Cb5uo0B7k",
     "800Cb5uo0B7x6o0Casw00B7x6o0Casw00B7x6o0Cb5uo0B7k800Cb5uo0B7k800Cb5uo0B7k800Cb5uo0B7x6o0C",
     "asw00B7x6o0Casw00B7x6o0Cb5uo0B7k800C1vbzw0Bwrpg0C"],
    ""⟩,
  ⟨"Asia/Omsk",
    "LMT:17610 +05:18000 +06:21600 +07:25200",
    ["-q5xmx6B5j6d16Cqi27w0D9et80C9d440D9et80C9d440D9et80C9eys0D9d6w0C9d1c0D9d1c0C9d1c0D9d1c0C",
     "9d1c0D9d1c0C9d1c0D9d1c0C9d1c0D9d1c0C9d1c0D9q000Ciq5g0B5reo0C3ljw0D9d1c0C9d1c0D9d1c0C9d1c",
     "0D9d1c0C9d1c0D9d1c0C9q000Dasw00C7x6o0Dasw00C7x6o0Dasw00C7x6o0Db5uo0C7k800Db5uo0C7k800Db5",
     "uo0C7x6o0Dasw00C7x6o0Dasw00C7x6o0Db5uo0C7k800Db5uo0C7k800Db5uo0C7k800Db5uo0C7x6o0Dasw00C",
     "7x6o0Dasw00C7x6o0Db5uo0C7k800D1vbzw0C"],
    ""⟩,
  ⟨"Asia/Oral",
    "LMT:12324 +03:10800 +05:18000 +06:21600 +04:14400",
    ["-nu15icB37a16cCqi2540Ds6qk0C9d440D9et80C9eys0D9d6w0C9d1c0D9d1c0C9d1c0D9d1c0C9d1c0D9d1c0C",
     "9d1c0D9d1c0Ciq5g0E9d1c0C9q000E9d1c0C9d1c0E5reo0Ccyo00E9d1c0C9d1c0E9d1c0C9d1c0E9d1c0C9d1c",
     "0E9q000Casw00E7x6o0Casw00E7x6o0Casw00E7x6o0Cb5uo0E7k800Cb5uo0E7k800Cb5uo0E7x6o0Casw00E7x",
     "6o0Casw00E7x6o0C"],
    ""⟩,
  ⟨"Asia/Pontianak",
    "LMT:26240 PMT:26240 +0730:27000 +09:32400 +08:28800 WITA:28800 WIB:25200",
    ["-w6piwwBcse2o0C4tnu2wD1wkei0C1cx860E11jta0C74uc20Fcixam0G"],
    ""⟩,
  ⟨"Asia/Pyongyang",
    "LMT:30180 KST:30600 JST:32400 KST:32400",
    ["-w895ycB1yh10cChk5da0D10ipmo0B1f4qo0D"],
    ""⟩,
  ⟨"Asia/Qatar",
    "LMT:12368 +04:14400 +03:10800",
    ["-q3gmvkBrctnrkC"],
    ""⟩,
  ⟨"Asia/Qostanay",
    "LMT:15268 +04:14400 +05:18000 +06:21600",
    ["-nu17s4B37a0o4Cqi27w0Ds6qk0C9d440D9et80C9eys0D9d6w0C9d1c0D9d1c0C9d1c0D9d1c0C9d1c0D9d1c0C",
     "9d1c0D9d1c0C9d1c0D9d1c0C9d1c0D9q000Ciq5g0B5reo0C3ljw0D9d1c0C9d1c0D9d1c0C9d1c0D9d1c0C9d1c",
     "0D9d1c0C9q000Dasw00C7x6o0Dasw00C7x6o0Dasw00C7x6o0Db5uo0C7k800Db5uo0C7k800Db5uo0C7x6o0Das",
     "w00C7x6o0Dasw00C7x6o0Daedjo0C"],
    ""⟩,
  ⟨"Asia/Qyzylorda",
    "LMT:15712 +04:14400 +05:18000 +06:21600",
    ["-nu184gB37a10gCqi27w0Ds6qk0C9d440D9et80C9eys0D9d6w0C9d1c0D9d1c0C9d1c0D9d1c0C9d1c0D9d1c0C",
     "9d1c0D9d1c0C9d1c0D9d1c0C9d1c0D9q000Cohhc0Dcyo00C9d1c0D9d1c0C9d1c0D9d1c0C9d1c0D9d1c0C9q00",
     "0Dasw00C7x6o0Dasw00C7x6o0Dasw00C7x6o0Db5uo0C7k800Db5uo0C7k800Db5uo0C7x6o0Dasw00C7x6o0Das",
     "w00C7x6o0D7osl00C"],
    ""⟩,
  ⟨"Asia/Riyadh",
    "LMT:11212 +03:10800",
    ["-bwgbbgB"],
    ""⟩,
  ⟨"Asia/Sakhalin",
    "LMT:34248 +09:32400 +11:39600 +12:43200 +10:36000",
    ["-xl87rcBkvnarcCikvh40D9et80C9d440D9et80C9d440D9et80C9eys0D9d6w0C9d1c0D9d1c0C9d1c0D9d1c0C",
     "9d1c0D9d1c0C9d1c0D9d1c0C9d1c0D9d1c0C9d1c0D9q000Ciq5g0E5reo0C3ljw0D9d1c0C9d1c0D9d1c0C9d1c",
     "0D9d1c0C9d1c0D9d1c0C9q000Dasw00Ciq5g0E7x6o0Casw00E7x6o0Cb5uo0E7k800Cb5uo0E7k800Cb5uo0E7x",
     "6o0Casw00E7x6o0Casw00E7x6o0Cb5uo0E7k800Cb5uo0E7k800Cb5uo0E7k800Cb5uo0E7x6o0Casw00E7x6o0C",
     "asw00E7x6o0Cb5uo0E7k800C1vbzw0Eqnc40C"],
    ""⟩,
  ⟨"Asia/Samarkand",
    "LMT:16073 +04:14400 +05:18000 +06:21600",
    ["-nu18ehB37a1ahCqi27w0Ds6qk0C9d440D9et80C9eys0D9d6w0C9d1c0D9d1c0C9d1c0D9d1c0C9d1c0D9d1c0C",
     "9d1c0D9d1c0C9d1c0D9d1c0C9d1c0D9q000C9d1c0D9d1c0C"],
    ""⟩,
  ⟨"Asia/Seoul",
    "LMT:30472 KST:30600 JST:32400 KST:32400 KDT:36000 KDT:34200",
    ["-w8966gB1yh18gChkx5a0D1faao0E5cik0Dae5g0E8a2k0Dae5g0E8bx80Dc8tg0E6h980D1bj6s0Bl3aq0F6j3w",
     "0Bd2g40F6u7w0Bb5xg0F776k0Bbiw40F776k0Bbiw40F776k0Bbiw40F776k0Bgrs40Ddfqxi0E7x6o0Dasw00E7",
     "x6o0D"],
    ""⟩,
  ⟨"Asia/Shanghai",
    "LMT:29143 CST:28800 CDT:32400",
    ["-100eztjB9jeyxjC8sl80Basbpg0C6w2k0B7ves0Cbxjw0B4mqs0C1vduk0Bd4as0C75bw0Ba31g0Caaak0B9d44",
     "0C7v980Bawo40C1dx80Bj9xpo0C6u7w0Basys0C7x3w0Bb5xg0C7k580Bb5xg0C7x3w0Basys0C7x3w0Basys0C7",
     "x3w0B"],
    ""⟩,
  ⟨"Asia/Singapore",
    "LMT:24925 SMT:24925 +07:25200 +0720:26400 +0730:27000 +09:32400 +08:28800",
    ["-100ewkdB2ax6o0Ceeb94dD4it32oE8n3jcF1v2p60Eiy31y0G"],
    ""⟩,
  ⟨"Asia/Srednekolymsk",
    "LMT:36892 +10:36000 +11:39600 +12:43200",
    ["-nu1ogsB37a0osCqi27w0D9et80C9d440D9et80C9d440D9et80C9eys0D9d6w0C9d1c0D9d1c0C9d1c0D9d1c0C",
     "9d1c0D9d1c0C9d1c0D9d1c0C9d1c0D9d1c0C9d1c0D9q000Ciq5g0B5reo0C3ljw0D9d1c0C9d1c0D9d1c0C9d1c",
     "0D9d1c0C9d1c0D9d1c0C9q000Dasw00C7x6o0Dasw00C7x6o0Dasw00C7x6o0Db5uo0C7k800Db5uo0C7k800Db5",
     "uo0C7x6o0Dasw00C7x6o0Dasw00C7x6o0Db5uo0C7k800Db5uo0C7k800Db5uo0C7k800Db5uo0C7x6o0Dasw00C",
     "7x6o0Dasw00C7x6o0Db5uo0C7k800D1vbzw0C"],
    ""⟩,
  ⟨"Asia/Taipei",
    "LMT:29160 CST:28800 JST:32400 CDT:32400",
    ["-12mch60Blsd1m0C45slc0Bc51c0D75bw0Ba31g0Daaak0B9d440D7v980Bawo40D7v980Bawo40D7v980Bawo40",
     "D7v980B7tk40Dclmk0B7rpg0Db07w0B7rpg0Db07w0B7rpg0D9et80B9eys0D9et80B9d440D9et80B9d440D9et",
     "80B9d440D9et80Bcjxg0D69uk0Bci2s0D69uk0B6its40D9et80B9d440D9et80B1yf9g0D4qak0B"],
    ""⟩,
  ⟨"Asia/Tashkent",
    "LMT:16631 +05:18000 +06:21600 +07:25200",
    ["-nu18tzB379yxzCqi27w0D9et80C9d440D9et80C9d440D9et80C9eys0D9d6w0C9d1c0D9d1c0C9d1c0D9d1c0C",
     "9d1c0D9d1c0C9d1c0D9d1c0C9d1c0D9d1c0C9d1c0D9q000Ciq5g0B"],
    ""⟩,
  ⟨"Asia/Tbilisi",
    "LMT:10751 TBMT:10751 +03:10800 +04:14400 +05:18000",
    ["-1ayyaynBn4x6o0Ch4tjynDckinw0E9et80D9d440E9et80D9d440E9et80D9eys0E9d6w0D9d1c0E9d1c0D9d1c",
     "0E9d1c0D9d1c0E9d1c0D9d1c0E9d1c0D9d1c0E9d1c0D9d1c0E9q000Diq5g0C9cvs0D9cyk0C9d440D9cyk0C9d",
     "440Dipzw0E9cyk0D9q2s0Etivw0D7x9g0East80D7x9g0Eb5rw0D7kas0Eb5rw0D7kas0Eb5rw0D7x9g0East80D",
     "7x9g0East80D7x9g0E4ofw0D6hn40C7k800D"],
    ""⟩,
  ⟨"Asia/Tehran",
    "LMT:12344 TMT:12344 +0330:12600 +0430:16200 +04:14400 +05:18000",
    ["-s6m6uwBa5dpc0Clsvh0wDayg00E7z2q0F6uao0E7nxc0C7ieq0D5wvw0C9gtg0D9kd80C5ja5g0D7avw0C9d440",
     "D9gnw0C9b9g0D9gnw0C9b9g0D9gnw0C9b9g0D9gnw0C9b9g0D9gnw0C9d440D9gnw0C9b9g0D9gnw0C9b9g0D9gn",
     "w0C9b9g0D9gnw0C9d440D9gnw0C9b9g0D9gnw0C9b9g0D9gnw0C9b9g0D9gnw0C9d440D9gnw0C1av440D9gnw0C",
     "9d440D9gnw0C9b9g0D9gnw0C9b9g0D9gnw0C9b9g0D9gnw0C9d440D9gnw0C9b9g0D9gnw0C9b9g0D9gnw0C9b9g",
     "0D9gnw0C9d440D9gnw0C9b9g0D9gnw0C9b9g0D9gnw0C9b9g0D9gnw0C9d440D9gnw0C9b9g0D9gnw0C"],
    ""⟩,
  ⟨"Asia/Thimphu",
    "LMT:21516 +0530:19800 +06:21600",
    ["-bojcloBkxymnoC"],
    ""⟩,
  ⟨"Asia/Tokyo",
    "LMT:33539 JST:32400 JDT:36000",
    ["-16sodjnBvhk4jnC6uao0Bafxc0C8a5c0Bc8qo0C6hc00Bc8qo0C6hc00B"],
    ""⟩,
  ⟨"Asia/Tomsk",
    "LMT:20391 +06:21600 +07:25200 +08:28800",
    ["-q3zbqfB5h7z2fCqi27w0D9et80C9d440D9et80C9d440D9et80C9eys0D9d6w0C9d1c0D9d1c0C9d1c0D9d1c0C",
     "9d1c0D9d1c0C9d1c0D9d1c0C9d1c0D9d1c0C9d1c0D9q000Ciq5g0B5reo0C3ljw0D9d1c0C9d1c0D9d1c0C9d1c",
     "0D9d1c0C9d1c0D9d1c0C9q000Dasw00C7x6o0Dasw00C7x6o0Dasw00C7x6o0Db5uo0C7k800Db5uo0C7k800Db5",
     "uo0C7x6o0D1leo0C97k40B7x6o0Casw00B7x6o0Cb5uo0B7k800Cb5uo0B7k800Cb5uo0B7k800Cb5uo0B7x6o0C",
     "asw00B7x6o0Casw00B7x6o0Cb5uo0B7k800C1vbzw0Btw040C"],
    ""⟩,
  ⟨"Asia/Ulaanbaatar",
    "LMT:25652 +07:25200 +08:28800 +09:32400",
    ["-xmcrskB11sncckC2qk2k0D9et80C9eys0D9cyk0C9d440D9cyk0C9d440D9cyk0C9d440D9cyk0C9d440D9cyk0",
     "C9d440D9cyk0C9d440D9px80C9d440D9cyk0C9d440D9cyk0C9d440D9cyk0C9d440D9cyk0C9d440D9cyk0C9q2",
     "s0D9cyk0C9d440D9cyk0C9d440D9cyk0C1ckdo0D7x3w0C9d440D9cyk0C9d440D9cyk0C9d440D9cyk0C9d440D",
     "9cyk0C9d440D9px80C4fio40D9ct00C9d9o0D9ct00C"],
    ""⟩,
  ⟨"Asia/Urumqi",
    "LMT:21020 +06:21600",
    ["-lx5pjwB"],
    ""⟩,
  ⟨"Asia/Ust-Nera",
    "LMT:34374 +08:28800 +09:32400 +12:43200 +11:39600 +10:36000",
    ["-q4cl6uB5hl2yuCqi27w0D9eno0E9d440D9et80E9d440D9et80E9eys0D9d6w0E9d1c0D9d1c0E9d1c0D9d1c0E",
     "9d1c0D9d1c0E9d1c0D9d1c0E9d1c0D9d1c0E9d1c0D9q000Eiq5g0F5reo0E3ljw0D9d1c0E9d1c0D9d1c0E9d1c",
     "0D9d1c0E9d1c0D9d1c0E9q000Dasw00E7x6o0Dasw00E7x6o0Dasw00E7x6o0Db5uo0E7k800Db5uo0E7k800Db5",
     "uo0E7x6o0Dasw00E7x6o0Dasw00E7x6o0Db5uo0E7k800Db5uo0E7k800Db5uo0E7k800Db5uo0E7x6o0Dasw00E",
     "7x6o0Dasw00E7x6o0Db5uo0E7k800D8ql00E1mlho0F"],
    ""⟩,
  ⟨"Asia/Vladivostok",
    "LMT:31651 +09:32400 +10:36000 +11:39600",
    ["-oligf7B3yqvf7Cqi27w0D9et80C9d440D9et80C9d440D9et80C9eys0D9d6w0C9d1c0D9d1c0C9d1c0D9d1c0C",
     "9d1c0D9d1c0C9d1c0D9d1c0C9d1c0D9d1c0C9d1c0D9q000Ciq5g0B5reo0C3ljw0D9d1c0C9d1c0D9d1c0C9d1c",
     "0D9d1c0C9d1c0D9d1c0C9q000Dasw00C7x6o0Dasw00C7x6o0Dasw00C7x6o0Db5uo0C7k800Db5uo0C7k800Db5",
     "uo0C7x6o0Dasw00C7x6o0Dasw00C7x6o0Db5uo0C7k800Db5uo0C7k800Db5uo0C7k800Db5uo0C7x6o0Dasw00C",
     "7x6o0Dasw00C7x6o0Db5uo0C7k800D1vbzw0C"],
    ""⟩,
  ⟨"Asia/Yakutsk",
    "LMT:31138 +08:28800 +09:32400 +10:36000",
    ["-q4cioyB5hl0gyCqi27w0D9et80C9d440D9et80C9d440D9et80C9eys0D9d6w0C9d1c0D9d1c0C9d1c0D9d1c0C",
     "9d1c0D9d1c0C9d1c0D9d1c0C9d1c0D9d1c0C9d1c0D9q000Ciq5g0B5reo0C3ljw0D9d1c0C9d1c0D9d1c0C9d1c",
     "0D9d1c0C9d1c0D9d1c0C9q000Dasw00C7x6o0Dasw00C7x6o0Dasw00C7x6o0Db5uo0C7k800Db5uo0C7k800Db5",
     "uo0C7x6o0Dasw00C7x6o0Dasw00C7x6o0Db5uo0C7k800Db5uo0C7k800Db5uo0C7k800Db5uo0C7x6o0Dasw00C",
     "7x6o0Dasw00C7x6o0Db5uo0C7k800D1vbzw0C"],
    ""⟩,
  ⟨"Asia/Yangon",
    "LMT:23087 RMT:23087 +0630:23400 +09:32400",
    ["-1ayykhbBkvhpc0Cbnjp3bD1kh520C"],
    ""⟩,
  ⟨"Asia/Yekaterinburg",
    "LMT:14553 PMT:13505 +04:14400 +05:18000 +06:21600",
    ["-rx5hw9B1kybx4C5pfyv5Dqi27w0E9et80D9d440E9et80D9d440E9et80D9eys0E9d6w0D9d1c0E9d1c0D9d1c0",
     "E9d1c0D9d1c0E9d1c0D9d1c0E9d1c0D9d1c0E9d1c0D9d1c0E9q000Diq5g0C5reo0D3ljw0E9d1c0D9d1c0E9d1",
     "c0D9d1c0E9d1c0D9d1c0E9d1c0D9q000Easw00D7x6o0Easw00D7x6o0Easw00D7x6o0Eb5uo0D7k800Eb5uo0D7",
     "k800Eb5uo0D7x6o0Easw00D7x6o0Easw00D7x6o0Eb5uo0D7k800Eb5uo0D7k800Eb5uo0D7k800Eb5uo0D7x6o0",
     "Easw00D7x6o0Easw00D7x6o0Eb5uo0D7k800E1vbzw0D"],
    ""⟩,
  ⟨"Asia/Yerevan",
    "LMT:10680 +03:10800 +04:14400 +05:18000",
    ["-nu148oBh4tjwoCckinw0D9et80C9d440D9et80C9d440D9et80C9eys0D9d6w0C9d1c0D9d1c0C9d1c0D9d1c0C",
     "9d1c0D9d1c0C9d1c0D9d1c0C9d1c0D9d1c0C9d1c0D9q000Ciq5g0B9d1c0C9d1c0B9d1c0C9d1c0B9d1c0C9d1c",
     "0B9d1c0C11t180Dasw00C7x6o0Dasw00C7x6o0Db5uo0C7k800Db5uo0C7k800Db5uo0C7x6o0Dasw00C7x6o0Da",
     "sw00C7x6o0Db5uo0C7k800Db5uo0C7k800Db5uo0C7k800Db5uo0C7x6o0Dasw00C7x6o0Dasw00C7x6o0Db5uo0",
     "C7k800Db5uo0C"],
    ""⟩]

end Rota.Zone.Tables
