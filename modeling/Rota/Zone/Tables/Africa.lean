import Rota.Zone.Coded

/-!
Zones of Africa.
The coding is explained beside `CodedZone`.
-/

namespace Rota.Zone.Tables

def africa : List CodedZone := [
  ⟨"Africa/Abidjan",
    "LMT:-968 GMT:0",
    ["-u9rgl4B"],
    ""⟩,
  ⟨"Africa/Algiers",
    "LMT:732 PMT:561 WET:0 WEST:3600 CET:3600 CEST:7200",
    ["-154gb8cBafgo4rC2qx1nlD5luo0C8y800Da4tc0C7vc00Dauqo0C7idc0Db7pc0C6sg00Dcyo00C7ayo0D53c00",
     "C9idxc0D3i040C51mw0E253uk0F9o2k0E92040F8l3s0Ejutc0C4uy840E3rdzw0C46xc00D7x6o0C2xco40D8n1",
     "80E7x9g0F9d440Ekiqg0C9d440D9q2s0C9cyk0E"],
    ""⟩,
  ⟨"Africa/Bissau",
    "LMT:-3740 -01:-3600 GMT:0",
    ["-u9rbo4Bwvovs4C"],
    ""⟩,
  ⟨"Africa/Cairo",
    "LMT:7509 EET:7200 EEST:10800",
    ["-1054wglBkrj48lC40d80Ba31g0C7x3w0Ba4w40Caqyk0B80ys0Cb07w0B7tk40Cb07w0B8jhg0Ca8fw0B60go40",
     "C7el80Bawo40C7v980Bawqw0C7tk40Bb07w0C7tk40Bayd80C7tk40Bayd80C7tk40Bayd80C7tk40Bb07w0C7tk",
     "40Bayd80C7tk40Bayd80C7ves0Bawik0C7ves0Bayd80C7ves0Bawik0C7ves0Bawik0C7ves0Bawik0C7ves0Ba",
     "yd80C7ves0Bawik0C7ves0Bawik0C7ves0Bawik0C7ves0Bayd80C7ves0Bawik0C7ves0Bawik0C7ves0Bawik0",
     "C7ves0Bayd80C7ves0Bawik0C7ves0Bf9x80C3i040Beluk0C462s0Bayd80C7ves0Bawik0C7ves0Bawik0C7ve",
     "s0Bawik0C7ves0Bayd80C7ves0Bb5rw0C7m5g0Bawik0C7ves0Bawik0C7ves0Bayd80C7ves0Bawik0C7ves0Ba",
     "wik0C7ves0Baqvs0C7x3w0Basys0C7x3w0Basys0C7x3w0Basys0C7x3w0Bb5xg0C7x3w0Basys0C7x3w0Basys0",
     "C7x3w0Basys0C7x3w0Basys0C7x3w0Bb5xg0C7x3w0Basys0C7x3w0Basys0C7k580Bb5xg0C6u7w0Bbvus0C6h9",
     "80Bc8tg0C64ak0Bcyqs0C5anw0B1jms0C12t80B1w22s0C25p80B1sw40C2vmk0B"],
    "2023 C 4.5.5/0 B 10.5.4/86400"⟩,
  ⟨"Africa/Casablanca",
    "LMT:-1820 +00:0 +01:3600",
    ["-tblt9gBdi7nxgC3huk0B51k40C2znuk0B2dp9g0C776k0B8nt2s0C657w0B3ifxg0C3jp80Bva040C4qak0Be1m",
     "s0C7pp80Bcnms0C3afw0B2xi840Cxqqk0Bbp56s0C4qak0Be1ms0C45x80Bd2g40C51ek0Bc8tg0C64ak0Be1sc0",
     "C47uo0B1leo0C23xc0Basw00C3lmo0B1qyo0C40g00B7x6o0C4mo00B1stc0C4deo0B7x6o0C3ylc0B1stc0C51h",
     "c0B7x6o0C3lmo0B1stc0C5reo0B7k800C2vpc0B25s00C64dc0B7k800C2iqo0B1stc0Cgkao0B1stc0Cg7c00B2",
     "5s00Cg7c00B1stc0Cg7c00B25s00Cg7c00B1stc0Cgkao0B1stc0Cg7c00B25s00Cg7c00B1stc0Cgkao0B1stc0",
     "Cg7c00B25s00Cg7c00B1stc0Cg7c00B25s00Cg7c00B1stc0Cgkao0B1stc0Cg7c00B25s00Cg7c00B1stc0Cg7c",
     "00B25s00Cg7c00B25s00Cg7c00B1stc0Cg7c00B25s00Cg7c00B1stc0Cgkao0B1stc0Cg7c00B25s00Cg7c00B1",
     "stc0Cg7c00B25s00Cg7c00B25s00Cg7c00B1stc0Cg7c00B25s00Cg7c00B1stc0Cgkao0B1stc0Cg7c00B25s00",
     "Cg7c00B1stc0Cg7c00B25s00Cg7c00B25s00Cg7c00B1stc0Cg7c00B25s00Cg7c00B1stc0Cgkao0B1stc0Cg7c",
     "00B25s00Cg7c00B1stc0Cg7c00B25s00Cg7c00B25s00Cg7c00B1stc0Cg7c00B25s00Cg7c00B1stc0Cgkao0B1",
     "stc0Cg7c00B25s00Cg7c00B1stc0Cg7c00B25s00Cg7c00B25s00Cg7c00B1stc0Cg7c00B25s00Cg7c00B1stc0",
     "Cgkao0B1stc0Cg7c00B25s00Cg7c00B1stc0Cg7c00B25s00Cg7c00B25s00Cg7c00B1stc0Cg7c00B25s00Cg7c",
     "00B1stc0Cgkao0B1stc0Cg7c00B25s00Cg7c00B1stc0Cg7c00B25s00Cg7c00B1stc0Cgkao0B1stc0Cg7c00B2",
     "5s00Cg7c00B1stc0Cgkao0B1stc0Cg7c00B25s00C"],
    ""⟩,
  ⟨"Africa/Ceuta",
    "LMT:-1276 WET:0 WEST:3600 CET:3600 CEST:7200",
    ["-100ecckB91vdkkC7x3w0B2vt440C8sqs0Bssyk0C8n6s0B9px80C905g0Ba2yo0C902o0Bk69dc0C657w0B3ifx",
     "g0C3jp80Bva040C4qak0Be1ms0C7pp80Bcnms0C3afw0B2xi840D129us0E9d1c0D9d1c0E9d1c0D9d1c0E9d1c0",
     "D9d1c0E9d1c0D9d1c0E9q000D9d1c0E9d1c0D9d1c0E9d1c0D9d1c0E9d1c0D9d1c0E9d1c0D9d1c0E9d1c0D"],
    "1996 E 3.5.0/7200 D 10.5.0/10800"⟩,
  ⟨"Africa/El_Aaiun",
    "LMT:-3168 -01:-3600 +00:0 +01:3600",
    ["-isdxk0Bm2g0c0Cvek0D4qak0Ce1ms0D7pp80Ccnms0D3afw0Cfke5g0D4qak0Ce1ms0D45x80Cd2g40D51ek0Cc",
     "8tg0D64ak0Ce1sc0D47uo0C1leo0D23xc0Casw00D3lmo0C1qyo0D40g00C7x6o0D4mo00C1stc0D4deo0C7x6o0",
     "D3ylc0C1stc0D51hc0C7x6o0D3lmo0C1stc0D5reo0C7k800D2vpc0C25s00D64dc0C7k800D2iqo0C1stc0Dgka",
     "o0C1stc0Dg7c00C25s00Dg7c00C1stc0Dg7c00C25s00Dg7c00C1stc0Dgkao0C1stc0Dg7c00C25s00Dg7c00C1",
     "stc0Dgkao0C1stc0Dg7c00C25s00Dg7c00C1stc0Dg7c00C25s00Dg7c00C1stc0Dgkao0C1stc0Dg7c00C25s00",
     "Dg7c00C1stc0Dg7c00C25s00Dg7c00C25s00Dg7c00C1stc0Dg7c00C25s00Dg7c00C1stc0Dgkao0C1stc0Dg7c",
     "00C25s00Dg7c00C1stc0Dg7c00C25s00Dg7c00C25s00Dg7c00C1stc0Dg7c00C25s00Dg7c00C1stc0Dgkao0C1",
     "stc0Dg7c00C25s00Dg7c00C1stc0Dg7c00C25s00Dg7c00C25s00Dg7c00C1stc0Dg7c00C25s00Dg7c00C1stc0",
     "Dgkao0C1stc0Dg7c00C25s00Dg7c00C1stc0Dg7c00C25s00Dg7c00C25s00Dg7c00C1stc0Dg7c00C25s00Dg7c",
     "00C1stc0Dgkao0C1stc0Dg7c00C25s00Dg7c00C1stc0Dg7c00C25s00Dg7c00C25s00Dg7c00C1stc0Dg7c00C2",
     "5s00Dg7c00C1stc0Dgkao0C1stc0Dg7c00C25s00Dg7c00C1stc0Dg7c00C25s00Dg7c00C25s00Dg7c00C1stc0",
     "Dg7c00C25s00Dg7c00C1stc0Dgkao0C1stc0Dg7c00C25s00Dg7c00C1stc0Dg7c00C25s00Dg7c00C1stc0Dgka",
     "o0C1stc0Dg7c00C25s00Dg7c00C1stc0Dgkao0C1stc0Dg7c00C25s00D"],
    ""⟩,
  ⟨"Africa/Johannesburg",
    "LMT:6720 SAST:5400 SAST:7200 SAST:10800",
    ["-14nj6ioB5rpt0oCkn7o60D9cyk0C9d440D9cyk0C"],
    ""⟩,
  ⟨"Africa/Juba",
    "LMT:7588 CAT:7200 CAST:10800 EAT:10800",
    ["-kcrsisBkixuysC8l6k0Ba4w40C8n180Ba6qs0C8n180Ba31g0C8ovw0Ba16s0C8qqk0B9zc40C8sl80B9xhg0C8",
     "wak0B9ts40C8y580Ba4w40C8n180Ba31g0C8ovw0Ba16s0C8sl80B9xhg0C8ufw0B9vms0C8wak0B9ts40C8y580",
     "Ba4w40C8ovw0Ba16s0C8qqk0B7frw40Dazg180B"],
    ""⟩,
  ⟨"Africa/Khartoum",
    "LMT:7808 CAT:7200 CAST:10800 EAT:10800",
    ["-kcrsowBkixv4wC8l6k0Ba4w40C8n180Ba6qs0C8n180Ba31g0C8ovw0Ba16s0C8qqk0B9zc40C8sl80B9xhg0C8",
     "wak0B9ts40C8y580Ba4w40C8n180Ba31g0C8ovw0Ba16s0C8sl80B9xhg0C8ufw0B9vms0C8wak0B9ts40C8y580",
     "Ba4w40C8ovw0Ba16s0C8qqk0B7frw40D9ac180B"],
    ""⟩,
  ⟨"Africa/Lagos",
    "LMT:815 GMT:0 +0030:1800 WAT:3600",
    ["-xnxnanB1kdnanA2ve7ddC2yfgknD"],
    ""⟩,
  ⟨"Africa/Maputo",
    "LMT:7820 CAT:7200",
    ["-yvtfd8B"],
    ""⟩,
  ⟨"Africa/Monrovia",
    "LMT:-2588 MMT:-2588 MMT:-2670 GMT:0",
    ["-19xcbc4Bje5c00Crl202aD"],
    ""⟩,
  ⟨"Africa/Nairobi",
    "LMT:8836 +0230:9000 EAT:10800 +0245:9900",
    ["-w6p5hgBaiwqjgCsg1a0B3nbte0D2wu1z0C"],
    ""⟩,
  ⟨"Africa/Ndjamena",
    "LMT:3612 WAT:3600 WAST:7200",
    ["-u9rk4cBzdk5ccC7iak0B"],
    ""⟩,
  ⟨"Africa/Sao_Tome",
    "LMT:1616 LMT:-2205 GMT:0 WAT:3600",
    ["-18vsjwwBem14a5C1jbm6erDirxc0C"],
    ""⟩,
  ⟨"Africa/Tripoli",
    "LMT:3164 CET:3600 CEST:7200 EET:7200",
    ["-q3gfrwBgl6ajwC422c0Bxado0C4bbo0Bwrpg0C4s580B1kdpg0Dc05bw0B4mqs0C9et80B9d440C9et80B9eys0",
     "C9et80B9mdg0C95jw0B9io40C9cyk0B99es0C9et80B9eys0C9et80B9d440C9et80Bb2840D3cf3w0B9kis0C9e",
     "t80D7vqyw0B75eo0Casw00D"],
    ""⟩,
  ⟨"Africa/Tunis",
    "LMT:2444 PMT:561 CET:3600 CEST:7200",
    ["-1a9dr7wBfke44bCenxevlDb5uo0C53c00Du8w00C7x9g0Dc8w80C7k800Dz3w0Cew40D8bx80C9d440D9nx00C9",
     "25o0D8l100Cgi3440D7k800Cb9k00D7vc00C51mw00D5ytc0C9d1c0D9d1c0Cb9k00D7thc0C7m0tc0D7tk40C93",
     "us0Db5uo0C7k800Db5uo0C7x6o0Dasw00C"],
    ""⟩,
  ⟨"Africa/Windhoek",
    "LMT:4104 +0130:5400 SAST:7200 SAST:10800 CAT:7200 WAT:3600",
    ["-14nj4i0B5rpr00Ckn7o60D9cyk0Coj2nw0E235k00F8lho0East80F7x9g0Eb5rw0F7kas0Eb5rw0F7x9g0East",
     "80F7x9g0East80F7x9g0East80F7x9g0East80F7x9g0Eb5rw0F7kas0Eb5rw0F7x9g0East80F7x9g0East80F7",
     "x9g0East80F7x9g0East80F7x9g0Eb5rw0F7x9g0East80F7x9g0East80F7x9g0East80F7x9g0East80F7x9g0",
     "Eb5rw0F7kas0Eb5rw0F7x9g0East80F7x9g0East80F7x9g0East80F7x9g0E"],
    ""⟩]

end Rota.Zone.Tables
